import Copybook.Proofs.Text.Trim
import Copybook.Source.Statement

/-!
Blanks outside literals make no difference to the statements of a source. Statements without superfluous blanks are
read back from a text that holds them one after another.
-/

namespace Copybook

namespace Source

variable {quote : Option Char} {spaced : Bool} {c : Char} {s t : Text}

theorem openAfter_of_isBlank (h : isBlank c) : openAfter none c = none := by
  have hq : isQuote c = false := by
    cases hq : isQuote c
    case false => rfl
    case true =>
      simp only [isQuote, Bool.or_eq_true, beq_iff_eq] at hq
      rcases hq with rfl | rfl <;> exact absurd h (by decide)
  simp [openAfter, hq]

-- A character is a blank outside literals or it is kept.
theorem blank_or_kept (quote : Option Char) (c : Char) :
    (quote = none ∧ isBlank c) ∨ (quote.isNone && isBlank c) = false := by
  cases quote <;> simp

theorem collapseFrom_blank (h : isBlank c) :
    collapseFrom none spaced (c :: s) = (if spaced then [] else [' ']) ++ collapseFrom none true s := by
  cases spaced <;> simp [collapseFrom, h]

theorem collapseFrom_blank_of_spaced (h : isBlank c) :
    collapseFrom none true (c :: s) = collapseFrom none true s :=
  collapseFrom_blank h

theorem collapseFrom_kept (h : (quote.isNone && isBlank c) = false) :
    collapseFrom quote spaced (c :: s) = c :: collapseFrom (openAfter quote c) false s := by
  rw [collapseFrom, h]
  rfl

-- After a text, only the literal that is open there and whether a space has just been written count.
theorem collapseFrom_append (quote : Option Char) (spaced : Bool) (s : Text) : ∃ spaced', ∀ t,
    collapseFrom quote spaced (s ++ t) =
      collapseFrom quote spaced s ++ collapseFrom (s.foldl openAfter quote) spaced' t := by
  induction s generalizing quote spaced
  case nil => exact ⟨spaced, fun _ => rfl⟩
  case cons c s hi =>
    rcases blank_or_kept quote c with ⟨rfl, hc⟩ | hc
    case inl =>
      have ⟨spaced', hi⟩ := hi none true
      refine ⟨spaced', fun t => ?_⟩
      rw [List.cons_append, collapseFrom_blank hc, hi, collapseFrom_blank hc, List.foldl_cons, openAfter_of_isBlank hc,
        List.append_assoc]
    case inr =>
      have ⟨spaced', hi⟩ := hi (openAfter quote c) false
      refine ⟨spaced', fun t => ?_⟩
      rw [List.cons_append, collapseFrom_kept hc, hi, collapseFrom_kept hc, List.foldl_cons, List.cons_append]

theorem isBlank_of_mem_collapseFrom (h : ∀ c ∈ s, isBlank c) : ∀ c ∈ collapseFrom quote spaced s, isBlank c := by
  induction s generalizing quote spaced
  case nil => simp [collapseFrom]
  case cons d s hi =>
    have ⟨hd, h⟩ := List.forall_mem_cons.mp h
    rcases blank_or_kept quote d with ⟨rfl, hb⟩ | hk
    case inl =>
      rw [collapseFrom_blank hb]
      cases spaced <;> simpa [show isBlank ' ' from by decide] using hi h
    case inr =>
      rw [collapseFrom_kept hk]
      exact List.forall_mem_cons.mpr ⟨hd, hi h⟩

-- Collapsed text is left as it is, except that blanks are dropped from its front where none are to be written.
theorem collapseFrom_collapseFrom (quote : Option Char) (b spaced : Bool) (s : Text) :
    collapseFrom quote b (collapseFrom quote spaced s) = collapseFrom quote (b || spaced) s := by
  induction s generalizing quote b spaced
  case nil => rfl
  case cons c s hi =>
    rcases blank_or_kept quote c with ⟨rfl, hc⟩ | hc
    case inl =>
      have hs : isBlank ' ' := by decide
      rw [collapseFrom_blank hc, collapseFrom_blank hc]
      cases spaced
      case true => simpa using hi none b true
      case false => simp [collapseFrom_blank hs, hi none true true]
    case inr =>
      rw [collapseFrom_kept hc, collapseFrom_kept hc, collapseFrom_kept hc, hi (openAfter quote c) false false]
      rfl

theorem collapseFrom_dropRight (quote : Option Char) (spaced : Bool) (s : Text) :
    collapseFrom quote spaced (Text.dropRight isBlank s) = Text.dropRight isBlank (collapseFrom quote spaced s) := by
  induction s using List.reverseRecOn
  case nil => rfl
  case append_singleton s c hi =>
    have ⟨spaced', ha⟩ := collapseFrom_append quote spaced s
    rw [ha]
    cases hc : isBlank c
    case true =>
      rw [Text.dropRight_concat_of_pos _ hc, hi, Text.dropRight_append_of_all]
      exact isBlank_of_mem_collapseFrom (by simpa using hc)
    case false =>
      have hk : ((s.foldl openAfter quote).isNone && isBlank c) = false := by simp [hc]
      rw [Text.dropRight_concat_of_neg _ hc, ha, collapseFrom_kept hk, collapseFrom, Text.dropRight_concat_of_neg _ hc]

theorem collapseFrom_dropWhile (s : Text) :
    collapseFrom none true (s.dropWhile isBlank) = collapseFrom none true s := by
  induction s
  case nil => rfl
  case cons c s hi =>
    cases hc : isBlank c
    case true => rw [List.dropWhile_cons_of_pos hc, collapseFrom_blank_of_spaced hc, hi]
    case false => rw [List.dropWhile_cons_of_neg (by simp [hc])]

theorem collapse_eq (s : Text) : collapse s = Text.dropRight isBlank (collapseFrom none true s) := by
  rw [collapse, Text.strip, collapseFrom_dropRight, collapseFrom_dropWhile]

theorem collapse_collapseFrom (s : Text) : collapse (collapseFrom none spaced s) = collapse s := by
  rw [collapse_eq, collapse_eq, collapseFrom_collapseFrom, Bool.true_or]

theorem collapse_dropRight (s : Text) : collapse (Text.dropRight isBlank s) = collapse s := by
  rw [collapse_eq, collapse_eq, collapseFrom_dropRight]
  simpa using Text.dropRight_append_dropRight [] (collapseFrom none true s)

theorem collapse_concat_blank (hc : isBlank c) (s : Text) : collapse (s ++ [c]) = collapse s := by
  rw [←collapse_dropRight, Text.dropRight_concat_of_pos s hc, collapse_dropRight]

-- Collapsed text has single spaces only.
theorem collapseFrom_of_collapse (h : collapse s = s) : collapseFrom none true s = s := by
  rw [collapse_eq] at h
  rw [←h, collapseFrom_dropRight, collapseFrom_collapseFrom, Bool.true_or]

theorem collapse_eq_nil_iff : collapse s = [] ↔ s.all isBlank := by
  induction s
  case nil => simp [collapse_eq, collapseFrom]
  case cons c s hi =>
    rw [collapse_eq] at hi ⊢
    cases hc : isBlank c
    case true => simpa [collapseFrom_blank hc, hc] using hi
    case false =>
      have hk : ((none : Option Char).isNone && isBlank c) = false := by simp [hc]
      rw [collapseFrom_kept hk, Text.dropRight_eq_nil_iff]
      simp [hc]

-- The statements in the code of a source.
def statementsIn (code : Text) : List Text :=
  ((cutFrom none [] code).map collapse).filter (!·.isEmpty)

theorem statements_eq (source : Text) : statements source = statementsIn (code source) := by
  rw [statements, statementsIn, List.filter_map]
  congr 1
  refine List.filter_congr fun s _ => ?_
  rw [Function.comp_apply]
  congr 1
  rw [Bool.eq_iff_iff, List.isEmpty_iff, collapse_eq_nil_iff]

theorem cutFrom_eq (quote : Option Char) (statement s : Text) :
    cutFrom quote statement s = (cutFrom quote [] s).modifyHead (statement.reverse ++ ·) := by
  induction s generalizing quote statement
  case nil => simp [cutFrom]
  case cons c s hi =>
    rw [cutFrom, cutFrom]
    split
    case isTrue => simp
    case isFalse =>
      rw [hi, hi _ [c]]
      cases cutFrom (openAfter quote c) [] s <;> simp

theorem cutFrom_kept (h : ¬(quote.isNone && c == '.' && beginsBlank s)) :
    cutFrom quote [] (c :: s) = (cutFrom (openAfter quote c) [] s).modifyHead (c :: ·) := by
  rw [cutFrom, if_neg h, cutFrom_eq]
  rfl

theorem ne_period_of_isBlank (h : isBlank c) : (c == '.') = false :=
  beq_false_of_ne fun he => absurd (he ▸ h) (by decide)

theorem beginsBlank_collapseFrom (s : Text) : beginsBlank (collapseFrom none false s) = beginsBlank s := by
  cases s
  case nil => rfl
  case cons c s =>
    cases hc : isBlank c
    case true => simp [collapseFrom_blank hc, beginsBlank, hc, show isBlank ' ' from by decide]
    case false => simp [collapseFrom, beginsBlank, hc]

-- A period that counts is not in a literal and opens none.
theorem openAfter_period (h : quote.isNone && c == '.') : openAfter quote c = none := by
  simp only [Bool.and_eq_true, Option.isNone_iff_eq_none, beq_iff_eq] at h
  rw [h.left, h.right]
  rfl

-- Collapsed code is cut where the code itself is cut.
theorem cutFrom_collapseFrom (quote : Option Char) (spaced : Bool) (s : Text) : ∃ first rest,
    cutFrom quote [] s = first :: rest ∧
      cutFrom quote [] (collapseFrom quote spaced s) =
        collapseFrom quote spaced first :: rest.map (collapseFrom none false) := by
  induction s generalizing quote spaced
  case nil => exact ⟨[], [], rfl, rfl⟩
  case cons c s hi =>
    rcases blank_or_kept quote c with ⟨rfl, hc⟩ | hk
    case inl =>
      have ⟨first, rest, hs, hi⟩ := hi none true
      have hsp : isBlank ' ' := by decide
      refine ⟨c :: first, rest, ?_, ?_⟩
      · rw [cutFrom_kept (by simp [ne_period_of_isBlank hc]), openAfter_of_isBlank hc, hs]
        rfl
      · rw [collapseFrom_blank hc, collapseFrom_blank hc]
        cases spaced
        case true => exact hi
        case false =>
          rw [if_neg Bool.false_ne_true, List.singleton_append, cutFrom_kept (by simp [ne_period_of_isBlank hsp]),
            openAfter_of_isBlank hsp, hi]
          rfl
    case inr =>
      -- Whether a period ends the statement is seen on the collapsed text as well.
      have hb : (quote.isNone && c == '.' && beginsBlank (collapseFrom (openAfter quote c) false s)) =
          (quote.isNone && c == '.' && beginsBlank s) := by
        cases h : quote.isNone && c == '.'
        case false => rfl
        case true => rw [openAfter_period h, beginsBlank_collapseFrom]
      rw [collapseFrom_kept hk]
      by_cases hcut : quote.isNone && c == '.' && beginsBlank s
      case pos =>
        have ⟨first, rest, hs, hi⟩ := hi none false
        refine ⟨[], first :: rest, ?_, ?_⟩
        · rw [cutFrom, if_pos hcut, hs]
          rfl
        · rw [cutFrom, hb, if_pos hcut, openAfter_period (Bool.and_eq_true_iff.mp hcut).left, hi]
          rfl
      case neg =>
        have ⟨first, rest, hs, hi⟩ := hi (openAfter quote c) false
        refine ⟨c :: first, rest, ?_, ?_⟩
        · rw [cutFrom_kept hcut, hs]
          rfl
        · rw [cutFrom_kept (hb ▸ hcut), hi, collapseFrom_kept hk]
          rfl

theorem statementsIn_collapseFrom (s : Text) : statementsIn (collapseFrom none spaced s) = statementsIn s := by
  have ⟨first, rest, hs, hc⟩ := cutFrom_collapseFrom none spaced s
  have hm : collapse ∘ collapseFrom none false = collapse := funext fun s => collapse_collapseFrom s
  rw [statementsIn, statementsIn, hs, hc, List.map_cons, List.map_cons, List.map_map, hm, collapse_collapseFrom]

theorem cutFrom_concat_blank (hc : isBlank c) (quote : Option Char) (statement s : Text) :
    (cutFrom quote statement (s ++ [c])).map collapse = (cutFrom quote statement s).map collapse := by
  induction s generalizing quote statement
  case nil =>
    simp [cutFrom, ne_period_of_isBlank hc, collapse_concat_blank hc]
  case cons d s hi =>
    have hb : beginsBlank (s ++ [c]) = beginsBlank s := by
      cases s <;> simp [beginsBlank, hc]
    rw [List.cons_append, cutFrom, cutFrom, hb]
    split
    case isTrue => simp [hi]
    case isFalse => exact hi _ _

theorem statementsIn_dropRight (s : Text) : statementsIn (Text.dropRight isBlank s) = statementsIn s := by
  induction s using List.reverseRecOn
  case nil => rfl
  case append_singleton s c hi =>
    cases hc : isBlank c
    case false => rw [Text.dropRight_concat_of_neg s hc]
    case true => rw [Text.dropRight_concat_of_pos s hc, hi, statementsIn, statementsIn, cutFrom_concat_blank hc]

-- Blanks make no difference outside literals.
theorem statementsIn_collapse (s : Text) : statementsIn (collapse s) = statementsIn s := by
  rw [collapse_eq, statementsIn_dropRight, statementsIn_collapseFrom]

-- Whether, outside literals, a character that satisfies `p` stands right before one that satisfies `r`. At the start,
-- `before` tells whether one that satisfies `p` comes before the text.
def meets (p r : Char → Bool) (quote : Option Char) (before : Bool) : Text → Bool
  | [] => false
  | c :: s => (before && r c) || meets p r (openAfter quote c) (quote.isNone && p c) s

theorem meets_append_cons {p r : Char → Bool} (hr : r c = false) (quote : Option Char) (before : Bool) (s t : Text) :
    meets p r quote before (s ++ c :: t) = (meets p r quote before s ||
      meets p r (openAfter (s.foldl openAfter quote) c) ((s.foldl openAfter quote).isNone && p c) t) := by
  induction s generalizing quote before
  case nil => simp [meets, hr]
  case cons d s hi => rw [List.cons_append, meets, hi, meets, List.foldl_cons, Bool.or_assoc]

-- A statement without superfluous blanks, with all of its literals closed, that no period inside ends.
structure IsStatement (s : Text) : Prop where
  nonempty : s ≠ []
  collapsed : collapse s = s
  balanced : s.foldl openAfter none = none
  undivided : meets (· == '.') (· == ' ') none false s = false

theorem length_collapseFrom_le (quote : Option Char) (spaced : Bool) (s : Text) :
    (collapseFrom quote spaced s).length ≤ s.length := by
  induction s generalizing quote spaced
  case nil => simp [collapseFrom]
  case cons c s hi =>
    rcases blank_or_kept quote c with ⟨rfl, hc⟩ | hc
    case inl =>
      have := hi none true
      rw [collapseFrom_blank hc]
      split <;> simp <;> omega
    case inr =>
      rw [collapseFrom_kept hc]
      simpa using hi (openAfter quote c) false

-- Outside literals, collapsed text has no blanks but spaces.
theorem meets_blank {before : Bool} (h : collapseFrom quote spaced s = s) (hb : before → quote = none) :
    meets (· == '.') isBlank quote before s = meets (· == '.') (· == ' ') quote before s := by
  induction s generalizing quote spaced before
  case nil => rfl
  case cons c s hi =>
    rcases blank_or_kept quote c with ⟨rfl, hc⟩ | hc
    case inl =>
      rw [collapseFrom_blank hc] at h
      cases spaced
      case true =>
        have hl := length_collapseFrom_le none true s
        rw [show collapseFrom none true s = c :: s from h] at hl
        exact absurd hl (by simp)
      case false =>
        have ⟨hs, h⟩ := List.cons.inj (show ' ' :: collapseFrom none true s = c :: s from h)
        rw [meets, meets, ←hs, openAfter_of_isBlank (by decide), hi h fun _ => rfl]
        rfl
    case inr =>
      rw [collapseFrom_kept hc] at h
      have hk : (before && isBlank c) = (before && c == ' ') := by
        cases before
        case false => rfl
        case true =>
          rw [hb rfl] at hc
          have hc : isBlank c = false := hc
          have hne : (c == ' ') = false := beq_false_of_ne fun he => absurd (he ▸ hc) (by decide)
          rw [hc, hne]
      rw [meets, meets, hi (List.cons.inj h).right openAfter_period, hk]

-- A period after a statement ends it, and no earlier one does.
theorem cutFrom_undivided {before : Bool} (h : meets (· == '.') isBlank quote before s = false)
    (hs : s.foldl openAfter quote = none) (ht : beginsBlank t) :
    cutFrom quote [] (s ++ '.' :: t) = s :: cutFrom none [] t := by
  induction s generalizing quote before
  case nil => simp_all [cutFrom]
  case cons c s hi =>
    have hm := (Bool.or_eq_false_iff.mp (show (before && isBlank c || _) = false from h)).right
    have hcut : ¬(quote.isNone && c == '.' && beginsBlank (s ++ '.' :: t)) := by
      cases s
      case nil => simp [beginsBlank, show isBlank '.' = false from by decide]
      case cons d s =>
        have hd := (Bool.or_eq_false_iff.mp (show ((quote.isNone && c == '.') && isBlank d || _) = false from hm)).left
        simp only [List.cons_append, beginsBlank, List.head?_cons, Option.all_some, hd]
        exact Bool.false_ne_true
    rw [List.cons_append, cutFrom_kept hcut, hi hm hs]
    rfl

theorem statementsIn_append (hs : IsStatement s) (ht : beginsBlank t) :
    statementsIn (s ++ '.' :: t) = s :: statementsIn t := by
  have hm : meets _ _ _ false _ = _ := meets_blank (collapseFrom_of_collapse hs.collapsed) nofun
  rw [statementsIn, cutFrom_undivided (hm.trans hs.undivided) hs.balanced ht, List.map_cons, hs.collapsed,
    List.filter_cons_of_pos (by simp [hs.nonempty])]
  rfl

theorem statementsIn_blank (hc : isBlank c) (s : Text) : statementsIn (c :: s) = statementsIn s := by
  rw [←statementsIn_collapse, collapse_eq, collapseFrom_blank_of_spaced hc, ←collapse_eq,
    statementsIn_collapse]

-- Statements are read back from the text that holds them one after another.
theorem statementsIn_join {statements : List Text} (h : ∀ s ∈ statements, IsStatement s) :
    statementsIn (Text.join [' '] (statements.map (· ++ ['.']))) = statements := by
  induction statements
  case nil => rfl
  case cons s statements hi =>
    have ⟨hs, hss⟩ := List.forall_mem_cons.mp h
    specialize hi hss
    cases statements
    case nil => exact statementsIn_append hs rfl
    case cons t statements =>
      rw [List.map_cons, List.map_cons, Text.join, List.append_assoc, List.append_assoc,
        ←@List.map_cons _ _ (· ++ ['.'])]
      exact (statementsIn_append hs rfl).trans <| congrArg (s :: ·) <| (statementsIn_blank (by decide) _).trans hi

-- A line holds a piece of the code if there are only blanks around the piece, and every literal of it is closed.
structure Holds (line piece : Text) : Prop where
  padded : ∃ a b, (∀ c ∈ a, isBlank c) ∧ (∀ c ∈ b, isBlank c) ∧ line = a ++ piece ++ b
  balanced : piece.foldl openAfter none = none

theorem collapseFrom_blanks {b : Text} (hb : ∀ c ∈ b, isBlank c) (t : Text) :
    collapseFrom none true (b ++ t) = collapseFrom none true t := by
  induction b
  case nil => rfl
  case cons c b hi =>
    have ⟨hc, hb⟩ := List.forall_mem_cons.mp hb
    rw [List.cons_append, collapseFrom_blank_of_spaced hc, hi hb]

-- A run of blanks is as good as a space.
theorem collapseFrom_run {b : Text} (hb : ∀ c ∈ b, isBlank c) (hn : b ≠ []) (t : Text) :
    collapseFrom none spaced (b ++ t) = (if spaced then [] else [' ']) ++ collapseFrom none true t := by
  cases b
  case nil => exact absurd rfl hn
  case cons c b =>
    have ⟨hc, hs⟩ := List.forall_mem_cons.mp hb
    rw [List.cons_append, collapseFrom_blank hc, collapseFrom_blanks hs]

theorem collapse_of_holds (h : Holds s t) : collapse s = collapse t := by
  have ⟨a, b, ha, hb, he⟩ := h.padded
  have ⟨spaced, hj⟩ := collapseFrom_append none true t
  rw [collapse_eq, collapse_eq, he, List.append_assoc, collapseFrom_blanks ha, hj,
    Text.dropRight_append_of_all _ (isBlank_of_mem_collapseFrom hb)]

-- Line ends between pieces of the code mean the same as spaces.
theorem collapse_join {lines pieces : List Text} (h : List.Forall₂ Holds lines pieces) :
    collapse (Text.join ['\n'] lines) = collapse (Text.join [' '] pieces) := by
  induction h
  case nil => rfl
  case cons line piece lines pieces hp hps hi =>
    cases hps
    case nil => exact collapse_of_holds hp
    case cons line' piece' lines pieces _ _ =>
      have ⟨a, b, ha, hb, he⟩ := hp.padded
      have ⟨spaced, hj⟩ := collapseFrom_append none true piece
      have hn : ∀ c ∈ b ++ ['\n'], isBlank c := fun c hc => by
        rcases List.mem_append.mp hc with hc | hc
        · exact hb c hc
        · exact List.mem_singleton.mp hc ▸ by decide
      have hs : ∀ c ∈ [' '], isBlank c := fun c hc => List.mem_singleton.mp hc ▸ by decide
      have hl (t : Text) : collapseFrom none true (line ++ ['\n'] ++ t) =
          collapseFrom none true piece ++ ((if spaced then [] else [' ']) ++ collapseFrom none true t) := by
        rw [he, List.append_assoc, List.append_assoc, List.append_assoc, collapseFrom_blanks ha, hj, hp.balanced,
          ←List.append_assoc, collapseFrom_run hn (by simp)]
      have hr (t : Text) : collapseFrom none true (piece ++ [' '] ++ t) =
          collapseFrom none true piece ++ ((if spaced then [] else [' ']) ++ collapseFrom none true t) := by
        rw [List.append_assoc, hj, hp.balanced, collapseFrom_run hs (by simp)]
      rw [collapse_eq, collapse_eq] at hi
      rw [Text.join, Text.join, collapse_eq, collapse_eq, hl, hr, ←List.append_assoc, ←List.append_assoc,
        ←Text.dropRight_append_dropRight, hi, Text.dropRight_append_dropRight]

end Source
end Copybook
