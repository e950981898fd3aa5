import Copybook.Proofs.Picture.Suffix
import Copybook.Proofs.Text.Digits

/-!
A format as the runs it is written with: each symbol stands once, or as often as the count in parentheses after it says.
-/

namespace Copybook

variable {s t : Text} {usage : Option Text} {symbol : Char → Bool}

namespace Picture

-- A count may follow these symbols.
def isCounted (c : Char) : Bool :=
  isTextSymbol c || isNine c

-- The sign and the point have no count.
def isMark (c : Char) : Bool :=
  c == 'S' || c == 'V'

theorem of_isMark {c : Char} (h : isMark c) : isCounted c = false ∧ c ≠ '.' ∧ c ≠ ' ' := by
  simp only [isMark, Bool.or_eq_true, beq_iff_eq] at h
  rcases h with rfl | rfl <;> decide

-- A symbol, and the digits of the count after it if there is one.
structure Run where
  symbol : Char
  count : Option Text
  deriving DecidableEq, Repr

namespace Run

variable {r : Run}

def text (r : Run) : Text :=
  r.symbol :: match r.count with
    | none => []
    | some digits => '(' :: (digits ++ [')'])

-- How often the symbol stands.
def size (r : Run) : Nat :=
  r.count.elim 1 Text.toNat

def isValid (r : Run) : Bool :=
  match r.count with
  | none => isMark r.symbol || isCounted r.symbol
  | some digits => isCounted r.symbol && !digits.isEmpty && digits.all isDecimalDigit

-- The symbol as often as it stands. A run that stands for no symbol at all stays.
def expand (r : Run) : List Run :=
  if r.size = 0 then [r] else List.replicate r.size ⟨r.symbol, none⟩

theorem symbol_of_mem_expand {x : Run} (h : x ∈ r.expand) : x.symbol = r.symbol := by
  rw [expand] at h
  split at h
  case isTrue => rw [List.mem_singleton.mp h]
  case isFalse => rw [List.eq_of_mem_replicate h]

theorem exists_expand (r : Run) : ∃ x xs, r.expand = x :: xs ∧ x.symbol = r.symbol := by
  cases hx : r.expand
  case nil =>
    rw [expand] at hx
    split at hx
    case isTrue => contradiction
    case isFalse h => exact absurd (by simpa using congrArg List.length hx) h
  case cons x xs => exact ⟨x, xs, rfl, symbol_of_mem_expand (hx ▸ List.mem_cons_self)⟩

-- What is no symbol of a format is none of a run.
theorem symbol_ne {c : Char} (h : r.isValid) (hc : isCounted c = false) (hm : isMark c = false) : r.symbol ≠ c := by
  rintro rfl
  rw [isValid] at h
  cases hr : r.count <;> rw [hr] at h
  case none => simp [hc, hm] at h
  case some => simp [hc] at h

-- A symbol that has no count stands alone.
theorem eq_single (h : r.isValid) (hc : isCounted r.symbol = false) : r = ⟨r.symbol, none⟩ := by
  obtain ⟨c, count⟩ := r
  cases count
  case none => rfl
  case some => simp [isValid, hc] at h

end Run

-- The text of the runs.
def spell (rs : List Run) : Text :=
  rs.flatMap Run.text

-- The symbols that the runs stand for, one by one.
def expand (rs : List Run) : List Run :=
  rs.flatMap Run.expand

-- How many symbols the runs stand for.
def total (rs : List Run) : Nat :=
  (rs.map Run.size).sum

-- How many digits the counts are written with.
def countLengths (rs : List Run) : List Nat :=
  rs.filterMap fun r => r.count.map List.length

variable {rs rs' : List Run}

theorem spell_cons (r : Run) (rs : List Run) : spell (r :: rs) = r.text ++ spell rs :=
  rfl

theorem spell_append (rs rs' : List Run) : spell (rs ++ rs') = spell rs ++ spell rs' :=
  List.flatMap_append

theorem expand_cons (r : Run) (rs : List Run) : expand (r :: rs) = r.expand ++ expand rs :=
  rfl

theorem total_append (rs rs' : List Run) : total (rs ++ rs') = total rs + total rs' := by
  simp [total]

theorem total_cons (r : Run) (rs : List Run) : total (r :: rs) = r.size + total rs :=
  rfl

section Expand

variable {p : Char → Bool}

theorem total_expand (rs : List Run) : total (expand rs) = total rs := by
  have single (r : Run) : total r.expand = r.size := by
    rw [Run.expand]
    split
    case isTrue => rfl
    case isFalse => simp [total, Run.size]
  induction rs
  case nil => rfl
  case cons r rs hi =>
    rw [expand_cons, total_append, single, hi, total_cons]

theorem takeWhile_expand (rs : List Run) :
    (expand rs).takeWhile (p ·.symbol) = expand (rs.takeWhile (p ·.symbol)) := by
  induction rs
  case nil => rfl
  case cons r rs hi =>
    rw [expand_cons, List.takeWhile_cons]
    cases hp : p r.symbol
    case true =>
      rw [List.takeWhile_append_of_pos fun x hx => by rw [Run.symbol_of_mem_expand hx, hp], hi]
      rfl
    case false =>
      obtain ⟨x, xs, hx, hs⟩ := r.exists_expand
      rw [hx, List.cons_append, List.takeWhile_cons, hs, hp]
      rfl

theorem dropWhile_expand (rs : List Run) :
    (expand rs).dropWhile (p ·.symbol) = expand (rs.dropWhile (p ·.symbol)) := by
  induction rs
  case nil => rfl
  case cons r rs hi =>
    rw [List.dropWhile_cons]
    cases hp : p r.symbol
    case true =>
      rw [expand_cons, List.dropWhile_append_of_pos fun x hx => by rw [Run.symbol_of_mem_expand hx, hp], hi]
      rfl
    case false =>
      obtain ⟨x, xs, hx, hs⟩ := r.exists_expand
      rw [if_neg Bool.false_ne_true, expand_cons, hx, List.cons_append, List.dropWhile_cons, hs, hp]
      rfl

theorem head?_congr (h : expand rs = expand rs') : rs.head?.map Run.symbol = rs'.head?.map Run.symbol := by
  have head?_expand (rs : List Run) : (expand rs).head?.map Run.symbol = rs.head?.map Run.symbol := by
    cases rs
    case nil => rfl
    case cons r rs =>
      obtain ⟨x, xs, hx, hs⟩ := r.exists_expand
      rw [expand_cons, hx]
      exact congrArg some hs
  rw [←head?_expand, h, head?_expand]

theorem eq_nil_congr (h : expand rs = expand rs') : rs = [] ↔ rs' = [] := by
  rw [←List.head?_eq_none_iff, ←Option.map_eq_none_iff (f := Run.symbol), head?_congr h, Option.map_eq_none_iff,
    List.head?_eq_none_iff]

end Expand

section Usage

-- A usage word is of usage characters, but for the period that may end it.
theorem chars_of_usageWord? {word : Text} (h : usageWord? s = some word) :
    s ≠ [] ∧ ∀ c ∈ s, isUsageChar c ∨ c = '.' := by
  have of_chars {s : Text} (h : (if s.isEmpty || !s.all isUsageChar then none else some s) = some word) :
      s ≠ [] ∧ ∀ c ∈ s, isUsageChar c ∨ c = '.' := by
    split at h
    case isTrue => contradiction
    case isFalse ha =>
      rw [Bool.or_eq_true, not_or, Bool.not_eq_true, List.isEmpty_eq_false_iff, Bool.not_eq_true', Bool.not_eq_false] at ha
      exact ⟨ha.left, fun c hc => .inl (List.all_eq_true.mp ha.right c hc)⟩
  unfold usageWord? at h
  split at h
  case isFalse => exact of_chars h
  case isTrue hl =>
    rw [←List.dropLast_append_getLast? '.' hl]
    refine ⟨by simp, fun c hc => (List.mem_append.mp hc).elim ((of_chars h).right c) fun hc => .inr ?_⟩
    exact List.mem_singleton.mp hc

theorem words_of_usage? (h : usage? (' ' :: s) = some usage) :
    ∀ w ∈ Text.splitOn ' ' s, w ≠ [] ∧ ∀ c ∈ w, isUsageChar c ∨ c = '.' := by
  have of_word {word : Text} (h : (usageWord? word).map some = some usage) :
      word ≠ [] ∧ ∀ c ∈ word, isUsageChar c ∨ c = '.' := by
    obtain ⟨_, hw, -⟩ := Option.map_eq_some_iff.mp h
    exact chars_of_usageWord? hw
  have keyword {w : Text} (hw : w = "USAGE".toList ∨ w = "IS".toList) : w ≠ [] ∧ ∀ c ∈ w, isUsageChar c ∨ c = '.' := by
    rcases hw with rfl | rfl
    · exact ⟨by decide, fun c hc => .inl (List.all_eq_true.mp rfl c hc)⟩
    · exact ⟨by decide, fun c hc => .inl (List.all_eq_true.mp rfl c hc)⟩
  simp only [usage?] at h
  split at h
  case h_1 word he =>
    rw [he]
    exact List.forall_mem_singleton.mpr (of_word h)
  case h_2 intro word he =>
    split at h
    case isFalse => contradiction
    case isTrue hk =>
      rw [he]
      exact List.forall_mem_cons.mpr ⟨keyword hk, List.forall_mem_singleton.mpr (of_word h)⟩
  case h_3 intro is word he =>
    split at h
    case isFalse => contradiction
    case isTrue hk =>
      rw [he]
      exact List.forall_mem_cons.mpr ⟨keyword (.inl hk.left), List.forall_mem_cons.mpr
        ⟨keyword (.inr hk.right), List.forall_mem_singleton.mpr (of_word h)⟩⟩
  case h_4 => contradiction

-- After a format there is nothing, a period, or the words of a usage.
theorem usage?_cases (h : usage? t = some usage) : t = [] ∨ t = ['.'] ∨
    ∃ words ≠ [], t = Text.trail words ∧ ∀ w ∈ words, w ≠ [] ∧ ∀ c ∈ w, isUsageChar c ∨ c = '.' := by
  have hu := h
  unfold usage? at h
  split at h
  case h_1 => exact .inl rfl
  case h_2 => exact .inr (.inl rfl)
  case h_3 s =>
    refine .inr (.inr ⟨Text.splitOn ' ' s, Text.splitOn_ne_nil ' ' s, ?_, words_of_usage? hu⟩)
    rw [Text.trail_of_ne_nil (Text.splitOn_ne_nil ' ' s), Text.join_splitOn]
  case h_4 => contradiction

-- What may be next where a format ends.
def IsTail (t : Text) : Prop :=
  ∀ c, t.head? = some c → c = '.' ∨ c = ' '

theorem isTail_of_usage? (h : usage? t = some usage) : IsTail t := by
  intro c hc
  rcases usage?_cases h with rfl | rfl | ⟨words, hn, rfl, -⟩
  case inl => contradiction
  case inr.inl => exact .inl (Option.some.inj hc).symm
  case inr.inr =>
    rw [Text.trail_of_ne_nil hn] at hc
    exact .inr (Option.some.inj hc).symm

-- There are no counts in a usage.
theorem not_mem_of_usage? (h : usage? t = some usage) : '(' ∉ t := by
  have hno : ¬(isUsageChar '(' ∨ '(' = '.') := by decide
  rcases usage?_cases h with rfl | rfl | ⟨words, -, rfl, hw⟩
  case inl => exact List.not_mem_nil
  case inr.inl => decide
  case inr.inr =>
    intro hm
    obtain ⟨w, hw', hm⟩ := List.mem_flatMap.mp hm
    exact hno ((hw w hw').right _ ((List.mem_cons.mp hm).resolve_left (by decide)))

end Usage

-- No count is at the start of a format, or where it ends.
theorem count?_spell_append (hr : rs.all Run.isValid) (ht : IsTail t) : count? (spell rs ++ t) = none := by
  refine count?_eq_none fun h => ?_
  cases rs
  case nil => exact (ht _ h).elim (by decide) (by decide)
  case cons r rs =>
    rw [List.all_cons, Bool.and_eq_true] at hr
    exact Run.symbol_ne hr.left rfl rfl (Option.some.inj h)

theorem count?_counted {digits : Text} (hn : digits ≠ []) (hd : ∀ c ∈ digits, isDecimalDigit c) (s : Text) :
    count? ('(' :: (digits ++ [')'] ++ s)) = some (Text.toNat digits, s) := by
  have hp : isDecimalDigit ')' = false := rfl
  rw [count?_open, List.append_assoc, List.takeWhile_append_of_pos hd, List.dropWhile_append_of_pos hd]
  simp [hp, hn]

theorem exists_digits {n : Nat} {rest : Text} (h : count? s = some (n, rest)) :
    ∃ digits, s = '(' :: (digits ++ [')'] ++ rest) ∧ digits ≠ [] ∧ ∀ c ∈ digits, isDecimalDigit c := by
  by_cases hs : s.head? = some '('
  case neg =>
    rw [count?_eq_none hs] at h
    contradiction
  case pos =>
    obtain ⟨s, rfl⟩ := List.head?_eq_some_iff.mp hs
    rw [count?_open] at h
    split at h
    case isFalse => contradiction
    case isTrue hd =>
      obtain ⟨r, hr⟩ := List.head?_eq_some_iff.mp hd.left
      cases h
      refine ⟨s.takeWhile isDecimalDigit, ?_, hd.right, fun c hc => List.mem_takeWhile_imp hc⟩
      rw [hr, List.tail_cons, List.append_assoc, List.singleton_append, ←hr, List.takeWhile_append_dropWhile]

-- The text is written with runs, up to the rest of it.
def RunsTo (s t : Text) : Prop :=
  ∃ rs, rs.all Run.isValid ∧ s = spell rs ++ t

namespace RunsTo

variable {u : Text}

theorem refl (s : Text) : RunsTo s s :=
  ⟨[], rfl, rfl⟩

theorem trans (hs : RunsTo s t) (ht : RunsTo t u) : RunsTo s u := by
  obtain ⟨rs, hr, rfl⟩ := hs
  obtain ⟨rs', hr', rfl⟩ := ht
  exact ⟨rs ++ rs', by rw [List.all_append, hr, hr']; rfl, by rw [spell_append, List.append_assoc]⟩

theorem run {r : Run} (h : r.isValid) (ht : s = r.text ++ t) : RunsTo s t :=
  ⟨[r], by rw [List.all_cons, h]; rfl, ht.trans (by simp [spell])⟩

theorem tail {c : Char} (hc : isMark c) (h : s.head? = some c) : RunsTo s s.tail := by
  have hv : Run.isValid ⟨c, none⟩ := by rw [Run.isValid, hc, Bool.true_or]
  obtain ⟨s, rfl⟩ := List.head?_eq_some_iff.mp h
  exact run hv rfl

end RunsTo

section Runs

-- Only symbols that may have a count are read as runs.
variable (hs : ∀ c, symbol c → isCounted c)

include hs

theorem any_head?_of_isTail (ht : IsTail t) : t.head?.any symbol = false := by
  cases t
  case nil => rfl
  case cons c t =>
    refine Bool.eq_false_iff.mpr fun h => ?_
    have hc := hs c h
    rcases ht c rfl with rfl | rfl <;> contradiction

-- The runs of such symbols at the front are read, and all others are left.
theorem runs_spell (hr : rs.all Run.isValid) (ht : IsTail t) : runs symbol (spell rs ++ t) =
    (total (rs.takeWhile (symbol ·.symbol)), spell (rs.dropWhile (symbol ·.symbol)) ++ t) := by
  induction rs
  case nil => exact runs_of_not_symbol (any_head?_of_isTail hs ht)
  case cons r rs hi =>
    rw [List.all_cons, Bool.and_eq_true] at hr
    obtain ⟨hv, hr⟩ := hr
    rw [List.takeWhile_cons, List.dropWhile_cons]
    cases hc : symbol r.symbol
    case false => exact runs_of_not_symbol hc
    case true =>
      obtain ⟨c, count⟩ := r
      cases count
      case none =>
        have hstep : spell (⟨c, none⟩ :: rs) ++ t = c :: (spell rs ++ t) := rfl
        rw [hstep, runs_cons hc, count?_spell_append hr ht, hi hr]
        rfl
      case some digits =>
        have hstep : spell (⟨c, some digits⟩ :: rs) ++ t = c :: '(' :: (digits ++ [')'] ++ (spell rs ++ t)) := by
          simp [spell_cons, Run.text]
        simp only [Run.isValid, Bool.and_eq_true, Bool.not_eq_true', List.isEmpty_eq_false_iff, List.all_eq_true] at hv
        rw [hstep, runs_cons hc, count?_counted hv.left.right hv.right]
        dsimp only
        rw [hi hr]
        rfl

theorem runs?_spell (hr : rs.all Run.isValid) (ht : IsTail t) : runs? symbol (spell rs ++ t) =
    if rs.head?.any (symbol ·.symbol) then
      some (total (rs.takeWhile (symbol ·.symbol)), spell (rs.dropWhile (symbol ·.symbol)) ++ t)
    else none := by
  have hh : (spell rs ++ t).head?.any symbol = rs.head?.any (symbol ·.symbol) := by
    cases rs
    case nil => exact any_head?_of_isTail hs ht
    case cons => rfl
  rw [runs?, hh, runs_spell hs hr ht]

-- What is read of a text is written with runs.
theorem runsTo_runs (s : Text) : RunsTo s (runs symbol s).2 := by
  induction s using runs.induct symbol
  case case1 =>
    rw [runs]
    exact .refl []
  case case2 c s hc n rest h _ _ _ hi =>
    obtain ⟨digits, he, hn, hd⟩ := exists_digits h
    have hv : Run.isValid ⟨c, some digits⟩ = (isCounted c && !digits.isEmpty && digits.all isDecimalDigit) := rfl
    rw [hs c hc, List.isEmpty_eq_false_iff.mpr hn, List.all_eq_true.mpr hd] at hv
    rw [runs_cons hc, h]
    exact .trans (.run hv (congrArg (c :: ·) he)) hi
  case case3 c s hc h _ _ _ hi =>
    have hv : Run.isValid ⟨c, none⟩ := by rw [Run.isValid, hs c hc, Bool.or_true]
    rw [runs_cons hc, h]
    exact .trans (.run hv rfl) hi
  case case4 c s hc =>
    rw [runs_of_not_symbol (by simpa using hc)]
    exact .refl (c :: s)

theorem runsTo_runs? {n : Nat} {u : Text} (h : runs? symbol s = some (n, u)) : RunsTo s u := by
  rw [runs?] at h
  split at h
  case isFalse => contradiction
  case isTrue =>
    have hu : (runs symbol s).2 = u := congrArg Prod.snd (Option.some.inj h)
    exact hu ▸ runsTo_runs hs s

end Runs

section Counts

theorem counts_of_not_mem (h : '(' ∉ s) : counts s = [] := by
  rw [counts, Text.splitOn_of_not_mem h]
  rfl

theorem counts_append_left (h : '(' ∉ s) (t : Text) : counts (s ++ t) = counts t := by
  rw [counts, counts, Text.splitOn_append_of_not_mem h]
  cases Text.splitOn '(' t <;> rfl

theorem counts_open {digits : Text} (hd : ∀ c ∈ digits, isDecimalDigit c) (s : Text) :
    counts ('(' :: (digits ++ [')'] ++ s)) = digits :: counts s := by
  have hn : '(' ∉ digits ++ [')'] := by
    rw [List.mem_append, List.mem_singleton]
    exact not_or.mpr ⟨fun hm => absurd (hd _ hm) (by decide), by decide⟩
  have hp : isDecimalDigit ')' = false := rfl
  obtain ⟨piece, pieces, hs⟩ := List.exists_cons_of_ne_nil (Text.splitOn_ne_nil '(' s)
  have hstep : counts ('(' :: (digits ++ [')'] ++ s)) =
      (digits ++ [')'] ++ piece).takeWhile isDecimalDigit :: counts s := by
    rw [counts, counts, Text.splitOn, Text.splitOn_append_of_not_mem hn, hs]
    rfl
  rw [hstep, List.append_assoc, List.takeWhile_append_of_pos hd]
  simp [hp]

-- The counts that are checked are those of the runs.
theorem counts_spell (hr : rs.all Run.isValid) (ht : '(' ∉ t) : counts (spell rs ++ t) = rs.filterMap Run.count := by
  induction rs
  case nil => exact counts_of_not_mem ht
  case cons r rs hi =>
    rw [List.all_cons, Bool.and_eq_true] at hr
    obtain ⟨hv, hr⟩ := hr
    have hc : '(' ∉ [r.symbol] := by
      rw [List.mem_singleton]
      exact Ne.symm (Run.symbol_ne hv rfl rfl)
    obtain ⟨c, count⟩ := r
    cases count
    case none =>
      have hstep : spell (⟨c, none⟩ :: rs) ++ t = [c] ++ (spell rs ++ t) := rfl
      rw [hstep, counts_append_left hc, hi hr]
      rfl
    case some digits =>
      have hstep : spell (⟨c, some digits⟩ :: rs) ++ t = [c] ++ '(' :: (digits ++ [')'] ++ (spell rs ++ t)) := by
        simp [spell_cons, Run.text]
      simp only [Run.isValid, Bool.and_eq_true, List.all_eq_true] at hv
      rw [hstep, counts_append_left hc, counts_open hv.right, hi hr]
      rfl

end Counts

theorem isCounted_of_isTextSymbol (c : Char) (h : isTextSymbol c) : isCounted c := by
  rw [isCounted, h, Bool.true_or]

theorem isCounted_of_isNine (c : Char) (h : isNine c) : isCounted c := by
  rw [isCounted, h, Bool.or_true]

end Picture
end Copybook
