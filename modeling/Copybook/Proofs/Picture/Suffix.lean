import Copybook.Picture
import Copybook.Proofs.Source.Reader
import Copybook.Proofs.Text.Pieces

/-!
A format and what follows it are read apart: the type that a picture stands for depends on its format, on the usage
after that, and on whether there is anything after it at all.
-/

namespace Copybook

open Source (beginsBlank)

variable {s t : Text} {usage : Option Text}

namespace Picture

theorem count?_open (s : Text) : count? ('(' :: s) =
    if (s.dropWhile isDecimalDigit).head? = some ')' ∧ s.takeWhile isDecimalDigit ≠ [] then
      some (Text.toNat (s.takeWhile isDecimalDigit), (s.dropWhile isDecimalDigit).tail)
    else none := by
  rw [count?]
  split
  case h_1 he =>
    rw [he]
    cases s.takeWhile isDecimalDigit <;> simp
  case h_2 hn =>
    rw [if_neg]
    rintro ⟨he, -⟩
    obtain ⟨r, hr⟩ := List.head?_eq_some_iff.mp he
    exact hn r hr

theorem count?_eq_none (h : s.head? ≠ some '(') : count? s = none := by
  unfold count?
  split
  · exact absurd rfl h
  · rfl

-- A blank after a text is none of the characters that its start is compared with.
theorem head?_append_iff {c : Char} (hc : isBlank c = false) (ht : beginsBlank t) :
    (s ++ t).head? = some c ↔ s.head? = some c := by
  cases s
  case cons => exact Iff.rfl
  case nil =>
    refine ⟨fun he => ?_, nofun⟩
    rw [List.nil_append] at he
    rw [beginsBlank, he, Option.all_some, hc] at ht
    contradiction

theorem count?_append (ht : beginsBlank t) (s : Text) : count? (s ++ t) = (count? s).map fun (n, r) => (n, r ++ t) := by
  by_cases hs : s.head? = some '('
  case neg => rw [count?_eq_none hs, count?_eq_none (mt (head?_append_iff (by decide) ht).mp hs), Option.map_none]
  case pos =>
    obtain ⟨s, rfl⟩ := List.head?_eq_some_iff.mp hs
    have ⟨htake, hdrop⟩ := Source.takeWhile_append (fun _ => isDecimalDigit_of_isBlank) ht s
    rw [List.cons_append, count?_open, count?_open, htake, hdrop]
    simp only [head?_append_iff (show isBlank ')' = false by decide) ht]
    split
    case isFalse => rfl
    case isTrue h =>
      obtain ⟨r, hr⟩ := List.head?_eq_some_iff.mp h.left
      rw [hr]
      rfl

theorem count?_suffix {n : Nat} {r : Text} (h : count? s = some (n, r)) : r <:+ s := by
  by_cases hs : s.head? = some '('
  case neg =>
    rw [count?_eq_none hs] at h
    contradiction
  case pos =>
    obtain ⟨s, rfl⟩ := List.head?_eq_some_iff.mp hs
    rw [count?_open] at h
    split at h
    case isFalse => contradiction
    case isTrue =>
      cases h
      exact ((List.tail_suffix _).trans (List.dropWhile_suffix _)).trans (List.suffix_cons '(' s)

-- Blanks are no symbols.
def IsSymbolic (symbol : Char → Bool) : Prop :=
  ∀ c, isBlank c → symbol c = false

theorem isSymbolic_isTextSymbol : IsSymbolic isTextSymbol :=
  fun _ h => eq_false_of_isBlank (by decide +kernel) h

theorem isSymbolic_isNine : IsSymbolic isNine :=
  fun _ h => eq_false_of_isBlank (by decide +kernel) h

theorem isSymbolic_isEditSymbol : IsSymbolic isEditSymbol :=
  fun _ h => eq_false_of_isBlank (by decide +kernel) h

theorem any_head?_of_beginsBlank {symbol : Char → Bool} (hb : IsSymbolic symbol) (ht : beginsBlank t) :
    t.head?.any symbol = false := by
  cases t
  case nil => rfl
  case cons c t => exact hb c (by simpa [beginsBlank] using ht)

theorem runs_of_not_symbol {symbol : Char → Bool} (h : s.head?.any symbol = false) : runs symbol s = (0, s) := by
  cases s
  case nil => rw [runs]
  case cons c s =>
    rw [runs, if_neg]
    simpa using h

theorem runs_cons {symbol : Char → Bool} {c : Char} (hc : symbol c) (s : Text) : runs symbol (c :: s) =
    match count? s with
    | some (n, rest) => (n + (runs symbol rest).1, (runs symbol rest).2)
    | none => (1 + (runs symbol s).1, (runs symbol s).2) := by
  rw [runs, if_pos hc]
  split
  case h_1 h => rw [h]
  case h_2 h => rw [h]

theorem runs_append {symbol : Char → Bool} (hb : IsSymbolic symbol) (ht : beginsBlank t) (s : Text) :
    runs symbol (s ++ t) = ((runs symbol s).1, (runs symbol s).2 ++ t) := by
  have of_not {s : Text} (h : s.head?.any symbol = false) (ht : (s ++ t).head?.any symbol = false) :
      runs symbol (s ++ t) = ((runs symbol s).1, (runs symbol s).2 ++ t) := by
    rw [runs_of_not_symbol h, runs_of_not_symbol ht]
  induction s using runs.induct symbol
  case case1 => exact of_not rfl (any_head?_of_beginsBlank hb ht)
  case case2 c s hc n rest h total rest' hr hi =>
    rw [List.cons_append, runs_cons hc, runs_cons hc, count?_append ht, h]
    simp only [Option.map_some, hi]
  case case3 c s hc h total rest' hr hi =>
    rw [List.cons_append, runs_cons hc, runs_cons hc, count?_append ht, h]
    simp only [Option.map_none, hi]
  case case4 c s hc => exact of_not (by simpa using hc) (by simpa using hc)

theorem runs_suffix (symbol : Char → Bool) (s : Text) : (runs symbol s).2 <:+ s := by
  induction s using runs.induct symbol
  case case1 => rw [runs]
  case case2 c s hc n rest h total rest' hr hi =>
    rw [runs_cons hc, h]
    exact hi.trans ((count?_suffix h).trans (List.suffix_cons c s))
  case case3 c s hc h total rest' hr hi =>
    rw [runs_cons hc, h]
    exact hi.trans (List.suffix_cons c s)
  case case4 c s hc => rw [runs_of_not_symbol (by simpa using hc)]

theorem runs?_append {symbol : Char → Bool} (hb : IsSymbolic symbol) (ht : beginsBlank t) (s : Text) :
    runs? symbol (s ++ t) = (runs? symbol s).map fun (n, r) => (n, r ++ t) := by
  have hh : (s ++ t).head?.any symbol = s.head?.any symbol := by
    cases s
    case nil => exact any_head?_of_beginsBlank hb ht
    case cons => rfl
  rw [runs?, runs?, hh, runs_append hb ht]
  split <;> rfl

theorem runs?_suffix {symbol : Char → Bool} {n : Nat} {r : Text} (h : runs? symbol s = some (n, r)) : r <:+ s := by
  rw [runs?] at h
  split at h
  · have hr : (runs symbol s).2 = r := congrArg Prod.snd (Option.some.inj h)
    exact hr ▸ runs_suffix symbol s
  · contradiction

theorem digits?_eq (s : Text) : digits? s =
    match runs? isNine s with
    | some (intDigits, r) =>
      if r.head? = some 'V' then
        match runs? isNine r.tail with
        | some (fracDigits, rest) => some (intDigits, fracDigits, rest)
        | none => some (intDigits, 0, r.tail)
      else some (intDigits, 0, r)
    | none =>
      if s.head? = some 'V' then (runs? isNine s.tail).map fun (fracDigits, rest) => (0, fracDigits, rest) else none := by
  unfold digits?
  cases runs? isNine s
  case none =>
    by_cases hs : s.head? = some 'V'
    case pos =>
      obtain ⟨s, rfl⟩ := List.head?_eq_some_iff.mp hs
      rfl
    case neg =>
      dsimp only
      rw [if_neg hs]
      split
      case h_1 => exact absurd rfl hs
      case h_2 => rfl
  case some found =>
    obtain ⟨n, r⟩ := found
    by_cases hr : r.head? = some 'V'
    case pos =>
      obtain ⟨r, rfl⟩ := List.head?_eq_some_iff.mp hr
      rfl
    case neg =>
      dsimp only
      rw [if_neg hr]
      split
      case h_1 he =>
        cases he
        exact absurd rfl hr
      case h_2 he =>
        cases he
        rfl
      case h_3 he => contradiction

theorem digits?_append (ht : beginsBlank t) (s : Text) :
    digits? (s ++ t) = (digits? s).map fun (i, f, r) => (i, f, r ++ t) := by
  have htail {s : Text} (h : s.head? = some 'V') : (s ++ t).tail = s.tail ++ t := by
    cases s
    case nil => contradiction
    case cons => rfl
  rw [digits?_eq, digits?_eq, runs?_append isSymbolic_isNine ht]
  cases runs? isNine s
  case none =>
    simp only [Option.map_none, head?_append_iff (show isBlank 'V' = false by decide) ht]
    split
    case isTrue h =>
      rw [htail h, runs?_append isSymbolic_isNine ht]
      cases runs? isNine s.tail <;> rfl
    case isFalse => rfl
  case some found =>
    obtain ⟨n, r⟩ := found
    simp only [Option.map_some, head?_append_iff (show isBlank 'V' = false by decide) ht]
    split
    case isTrue h =>
      rw [htail h, runs?_append isSymbolic_isNine ht]
      cases runs? isNine r.tail <;> rfl
    case isFalse => rfl

theorem digits?_suffix {i f : Nat} {r : Text} (h : digits? s = some (i, f, r)) : r <:+ s := by
  rw [digits?_eq] at h
  cases hr : runs? isNine s <;> rw [hr] at h
  case none =>
    dsimp only at h
    split at h
    case isFalse => contradiction
    case isTrue =>
      obtain ⟨⟨f, r⟩, hf, he⟩ := Option.map_eq_some_iff.mp h
      cases he
      exact (runs?_suffix hf).trans (List.tail_suffix s)
  case some found =>
    obtain ⟨n, u⟩ := found
    have hu := runs?_suffix hr
    dsimp only at h
    split at h
    case isFalse =>
      cases h
      exact hu
    case isTrue =>
      have htail := (List.tail_suffix u).trans hu
      cases hf : runs? isNine u.tail <;> rw [hf] at h <;> cases h
      case none => exact htail
      case some => exact (runs?_suffix hf).trans htail

-- A format without blanks that no period ends, and what may follow it: a usage that is read, or nothing.
structure IsFormat (s : Text) : Prop where
  solid : ∀ c ∈ s, isBlank c = false
  unpointed : s.getLast? ≠ some '.'

structure Follows (usage : Option Text) (t : Text) : Prop where
  spaced : beginsBlank t
  uncounted : '(' ∉ t
  read : usage? t = some usage

theorem IsFormat.suffix {r : Text} (h : IsFormat s) (hr : r <:+ s) : IsFormat r where
  solid c hc := h.solid c (hr.subset hc)
  unpointed hl := by
    obtain ⟨u, rfl⟩ := hr
    have hn : r ≠ [] := by
      rintro rfl
      contradiction
    exact h.unpointed (by rw [List.getLast?_append_of_ne_nil _ hn, hl])

theorem follows_nil : Follows none [] :=
  ⟨rfl, List.not_mem_nil, rfl⟩

theorem Follows.ne_nil {word : Text} (h : Follows (some word) t) : t ≠ [] := by
  rintro rfl
  cases h.read

-- The usage is what follows the format, and only that.
theorem usage?_append (hs : IsFormat s) (ht : Follows usage t) : usage? (s ++ t) = if s = [] then some usage else none := by
  cases s
  case nil => exact ht.read
  case cons c s =>
    rw [if_neg (List.cons_ne_nil c s)]
    unfold usage?
    split
    case h_1 he => contradiction
    case h_2 he =>
      obtain ⟨hc, hst⟩ := List.cons.inj he
      rw [hc, (List.append_eq_nil_iff.mp hst).left] at hs
      exact absurd rfl hs.unpointed
    case h_3 he => exact absurd (hs.solid c List.mem_cons_self) ((List.cons.inj he).left ▸ by decide)
    case h_4 => rfl

theorem textLength?_append (hs : IsFormat s) (ht : Follows usage t) :
    textLength? (s ++ t) = if isDisplay usage then textLength? s else none := by
  have whole {t : Text} {usage : Option Text} (ht : Follows usage t) : textLength? (s ++ t) =
      (runs? isTextSymbol s).bind fun (n, r) => if r = [] ∧ isDisplay usage then some n else none := by
    rw [textLength?, runs?_append isSymbolic_isTextSymbol ht.spaced]
    cases hr : runs? isTextSymbol s
    case none => rfl
    case some found =>
      simp only [Option.map_some, Option.bind_eq_bind, Option.bind_some, usage?_append (hs.suffix (runs?_suffix hr)) ht]
      by_cases hn : found.2 = [] <;> simp [hn]
  have alone := whole follows_nil
  rw [List.append_nil] at alone
  rw [whole ht, alone]
  cases hd : isDisplay usage <;> simp [isDisplay]

-- A sign stands before the digits.
def unsigned (s : Text) : Text :=
  if s.head? = some 'S' then s.tail else s

theorem unsigned_suffix (s : Text) : unsigned s <:+ s := by
  unfold unsigned
  split
  · exact List.tail_suffix s
  · exact List.suffix_rfl

theorem unsigned_append (ht : beginsBlank t) (s : Text) : unsigned (s ++ t) = unsigned s ++ t := by
  unfold unsigned
  simp only [head?_append_iff (show isBlank 'S' = false by decide) ht]
  split
  case isTrue h =>
    obtain ⟨s, rfl⟩ := List.head?_eq_some_iff.mp h
    rfl
  case isFalse => rfl

theorem number?_eq (s : Text) : number? s =
    (digits? (unsigned s)).bind fun (i, f, r) => (usage? r).map fun usage => (⟨i, f, s.head? = some 'S'⟩, usage) := by
  have same (signed : Bool) (x : Option (Nat × Nat × Text)) : (do
      let (intDigits, fracDigits, rest) ← x
      let usage ← usage? rest
      return (⟨intDigits, fracDigits, signed⟩, usage) : Option (NumberShape × Option Text)) =
        x.bind fun (i, f, r) => (usage? r).map fun usage => (⟨i, f, signed⟩, usage) := by
    cases x
    case none => rfl
    case some found =>
      obtain ⟨i, f, r⟩ := found
      simp only [Option.bind_eq_bind, Option.bind_some]
      cases usage? r <;> rfl
  rw [unsigned]
  by_cases hs : s.head? = some 'S'
  case pos =>
    obtain ⟨s, rfl⟩ := List.head?_eq_some_iff.mp hs
    rw [number?]
    exact same true (digits? s)
  case neg =>
    rw [number?, if_neg hs, decide_eq_false hs]
    case x_1 =>
      rintro rest rfl
      exact hs rfl
    exact same false (digits? s)

theorem number?_append (hs : IsFormat s) (ht : Follows usage t) :
    number? (s ++ t) = (number? s).map fun (shape, _) => (shape, usage) := by
  have whole {t : Text} {usage : Option Text} (ht : Follows usage t) : number? (s ++ t) =
      (digits? (unsigned s)).bind fun (i, f, r) => if r = [] then some (⟨i, f, s.head? = some 'S'⟩, usage) else none := by
    rw [number?_eq, unsigned_append ht.spaced, digits?_append ht.spaced]
    cases hr : digits? (unsigned s)
    case none => rfl
    case some found =>
      simp only [Option.map_some, Option.bind_some,
        usage?_append (hs.suffix ((digits?_suffix hr).trans (unsigned_suffix s))) ht,
        head?_append_iff (show isBlank 'S' = false by decide) ht.spaced]
      split <;> rfl
  have alone := whole follows_nil
  rw [List.append_nil] at alone
  rw [whole ht, alone]
  cases digits? (unsigned s)
  case none => rfl
  case some found =>
    simp only [Option.bind_some]
    split <;> rfl

theorem counts_append (hn : '(' ∉ t) (ht : beginsBlank t) (s : Text) : counts (s ++ t) = counts s := by
  have digits (s : Text) : (Text.splitOn '(' (s ++ t)).map (List.takeWhile isDecimalDigit) =
      (Text.splitOn '(' s).map (List.takeWhile isDecimalDigit) := by
    induction s
    case nil =>
      have ⟨htake, _⟩ := Source.takeWhile_append (fun _ => isDecimalDigit_of_isBlank) ht []
      rw [List.nil_append, Text.splitOn_of_not_mem hn, List.map_singleton]
      exact congrArg ([·]) htake
    case cons c s hi =>
      obtain ⟨u, us, hu⟩ := List.exists_cons_of_ne_nil (Text.splitOn_ne_nil '(' s)
      obtain ⟨v, vs, hv⟩ := List.exists_cons_of_ne_nil (Text.splitOn_ne_nil '(' (s ++ t))
      rw [hu, hv, List.map_cons, List.map_cons] at hi
      obtain ⟨hd, htl⟩ := List.cons.inj hi
      rw [List.cons_append, Text.splitOn, Text.splitOn, hu, hv]
      dsimp only
      split
      case isTrue => simp [hd, htl]
      case isFalse => simp [List.takeWhile_cons, hd, htl]
  rw [counts, counts, List.map_drop, List.map_drop, digits]

theorem checkCounts_append (ht : Follows usage t) (s : Text) : checkCounts (s ++ t) = checkCounts s := by
  rw [checkCounts, checkCounts, counts_append ht.uncounted ht.spaced]

-- Text is no number.
theorem number?_of_text (h : (textLength? s).isSome) : number? s = none := by
  have hs : s.head?.any isTextSymbol := by
    rw [textLength?, runs?] at h
    cases hn : s.head?.any isTextSymbol
    case true => rfl
    case false =>
      rw [hn] at h
      contradiction
  cases s
  case nil => contradiction
  case cons c s =>
    have hc : isTextSymbol c := hs
    have hne {d : Char} (hd : isTextSymbol d = false) : c ≠ d := by
      rintro rfl
      rw [hd] at hc
      contradiction
    have hd : digits? (c :: s) = none := by
      have h9 : runs? isNine (c :: s) = none := if_neg (by simpa [isNine] using hne (by decide))
      rw [digits?_eq, h9]
      exact if_neg (by simpa using hne (by decide))
    rw [number?_eq, unsigned, if_neg (by simpa using hne (by decide)), hd]
    rfl

-- The type of a format with what follows it, which is no part of an edited one.
theorem classify_append {picture : Text} (hp : tidy picture = s ++ t) (hs : IsFormat s) (ht : Follows usage t) :
    classify picture =
      match textLength? s with
      | some length => if isDisplay usage then (checkCounts s).map fun _ => .text length false else .error .unknown
      | none =>
        match number? s with
        | some (shape, _) => do
          checkCounts s
          return .number (← storage? usage) shape
        | none => if t.isEmpty && !s.isEmpty && s.all isEditSymbol then .ok (.text s.length true) else .error .unknown := by
  have hedited : (!(s ++ t).isEmpty && (s ++ t).all isEditSymbol) = (t.isEmpty && !s.isEmpty && s.all isEditSymbol) := by
    cases t
    case nil => simp
    case cons c t =>
      have hc : isEditSymbol c = false := isSymbolic_isEditSymbol c (by simpa [beginsBlank] using ht.spaced)
      simp [hc]
  have hlength : t.isEmpty → (s ++ t).length = s.length := by
    cases t
    case nil => simp
    case cons => exact fun h => absurd h Bool.false_ne_true
  rw [classify, hp]
  simp only [textLength?_append hs ht, number?_append hs ht, checkCounts_append ht, hedited]
  cases hl : textLength? s
  case none =>
    rw [ite_self]
    cases number? s
    case some => rfl
    case none =>
      cases ht : t.isEmpty
      case false => rfl
      case true =>
        simp only [Option.map_none, hlength ht]
  case some length =>
    rw [number?_of_text (by rw [hl]; rfl)]
    cases hd : isDisplay usage
    case true => rfl
    case false =>
      obtain ⟨word, rfl⟩ : ∃ word, usage = some word := by
        cases usage
        case none => contradiction
        case some word => exact ⟨word, rfl⟩
      simp only [List.isEmpty_eq_false_iff.mpr ht.ne_nil, Bool.false_and]
      rfl

end Picture
end Copybook
