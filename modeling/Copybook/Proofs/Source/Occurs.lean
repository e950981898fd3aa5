import Copybook.Proofs.Layout.Usage
import Copybook.Proofs.Source.Adjacent
import Copybook.Proofs.Source.Entry

/-!
How many occurrences an item is declared with, told by the words of its clauses. The reader goes by the first number
that comes after the word `OCCURS`, whatever comes after that number, and by none if there is no such number; only with
the words `DEPENDING ON` somewhere it reads nothing.
-/

namespace Copybook
namespace Source

open Clause
open Text (words)

variable {s t u w : Text} {ws : List Text} {level n : Nat}

namespace Clause

-- The number that a word begins with, if it is a part of its own of the word.
def leadingNumber? (w : Text) : Option Text :=
  (digits? w).bind fun (digits, rest) => if wordEnds rest then some digits else none

def leadingOn? (w : Text) : Option Unit :=
  (keyword? "ON".toList w).bind fun rest => if wordEnds rest then some () else none

theorem wordEnds_append {r : Text} (hr : r ≠ []) (t : Text) : wordEnds (r ++ t) = wordEnds r := by
  obtain ⟨c, r, rfl⟩ := List.exists_cons_of_ne_nil hr
  rfl

theorem digits?_append_of_beginsBlank (ht : beginsBlank t) (w : Text) :
    digits? (w ++ t) = (digits? w).map fun (digits, rest) => (digits, rest ++ t) := by
  obtain ⟨htake, hdrop⟩ := takeWhile_append (fun _ => isDecimalDigit_of_isBlank) ht w
  rw [digits?, digits?, htake, hdrop]
  cases w.takeWhile isDecimalDigit <;> rfl

-- Whether `TIMES` comes after the number does not matter.
theorem pairs_occurs? : Pairs occurs? "OCCURS".toList (fun s => (digits? s).bind fun (digits, rest) =>
    match (blanks? rest).bind (keyword? "TIMES".toList ·) |>.filter wordEnds with
    | some rest => some (digits, rest)
    | none => if wordEnds rest then some (digits, rest) else none) leadingNumber? where
  nonempty := by decide
  solid := not_isBlank_of_all rfl
  reads before s := by
    cases hb : wordBegins before
    case false =>
      rw [occurs?, hb]
      rfl
    case true =>
      rw [occurs?_of_wordBegins hb]
      rfl
  alone := rfl
  takes w t hw ht := by
    rw [digits?_append_of_beginsBlank ht, leadingNumber?]
    cases hd : digits? w
    case none => rfl
    case some found =>
      obtain ⟨digits, r⟩ := found
      simp only [Option.map_some, Option.bind_some]
      by_cases hr : r = []
      case pos =>
        subst hr
        rw [List.nil_append, wordEnds_of_beginsBlank ht]
        split <;> rfl
      case neg =>
        have hsolid : ∀ c ∈ r, isBlank c = false := by
          rw [digits?] at hd
          split at hd <;> cases hd
          exact fun c hc => hw.solid c ((List.dropWhile_sublist _).mem hc)
        rw [blanks?_eq_none hsolid hr, wordEnds_append hr]
        simp only [Option.bind_none, Option.filter_none]
        split <;> rfl

theorem pairs_dependingOn? : Pairs dependingOn? "DEPENDING".toList (fun s => (keyword? "ON".toList s).bind fun rest =>
    if wordEnds rest then some ((), rest) else none) leadingOn? where
  nonempty := by decide
  solid := not_isBlank_of_all rfl
  reads before s := by
    rw [dependingOn?]
    cases wordBegins before <;> rfl
  alone := rfl
  takes w t hw ht := by
    rw [keyword?_append (not_isBlank_of_all rfl) ht, leadingOn?]
    cases hk : keyword? "ON".toList w
    case none => rfl
    case some r =>
      simp only [Option.map_some, Option.bind_some]
      by_cases hr : r = []
      case pos =>
        subst hr
        rw [List.nil_append, wordEnds_of_beginsBlank ht]
        rfl
      case neg =>
        rw [wordEnds_append hr]
        split <;> rfl

end Clause

-- The number of occurrences is said to depend on something.
def Dependent (ws : List Text) : Prop :=
  (firstAfter "DEPENDING".toList leadingOn? ws).isSome

instance : Decidable (Dependent ws) :=
  inferInstanceAs (Decidable (_ = _))

-- The first number that comes after the word.
def firstCount? (ws : List Text) : Option Text :=
  firstAfter "OCCURS".toList leadingNumber? ws

-- The number of occurrences is read off the words.
theorem occursIn_eq (s : Text) : occursIn s =
    if Dependent (words s) then .error .dependingOn
    else match firstCount? (words s) with
      | none => .ok (none, uncounted s)
      | some digits =>
        if maxDigits < digits.length then .error (.digits (.read digits.length))
        else if Text.toNat digits = 0 then .error .noOccurrences
        else .ok (some (Text.toNat digits), uncounted s) := by
  have hb : wordBegins none := rfl
  have hd : (search dependingOn? none s).isSome ↔ Dependent (words s) := by
    rw [Dependent, ←pairs_dependingOn?.search_eq (.inr hb), Option.isSome_map]
  rw [occursIn]
  by_cases hs : Dependent (words s)
  case pos =>
    rw [if_pos hs, if_pos (hd.mpr hs)]
    rfl
  case neg =>
    rw [if_neg hs, if_neg (hd.not.mpr hs), firstCount?, ←pairs_occurs?.search_eq (.inr hb), uncounted]
    cases search occurs? none s
    case none => rfl
    case some found =>
      simp only [Option.map_some, Text.readNat]
      split
      case isTrue => rfl
      case isFalse =>
        split
        case isTrue hz => exact if_pos hz
        case isFalse hz => exact if_neg hz

-- A usage of an item without a picture.
def UsageAlone (s : Text) : Prop :=
  search picture? none s = none ∧ ((search bareUsage? none s).isSome ∨ (search usage? none s).isSome)

theorem usageAlone_iff : UsageAlone s ↔ ∃ fault, pictureIn s = .error fault := by
  have hok := @pictureIn_isOk_iff s
  rw [UsageAlone]
  cases h : pictureIn s
  case ok picture =>
    refine iff_of_false (fun hu => ?_) nofun
    obtain ⟨hb, hg⟩ := hok.mp ⟨picture, h⟩ hu.left
    simp [hb, hg] at hu
  case error fault =>
    refine iff_of_true ?_ ⟨fault, rfl⟩
    have hn := mt hok.mpr (by simp [h])
    rw [Classical.not_imp] at hn
    refine ⟨hn.left, ?_⟩
    cases hb : search bareUsage? none s <;> cases hu : search usage? none s <;> simp_all

theorem isSourceFault_of_pictureIn {fault : SourceFault} (h : pictureIn s = .error fault) : fault.kind.isSourceFault := by
  rw [pictureIn] at h
  cases hp : search picture? none s <;> rw [hp] at h
  case some found =>
    cases hu : search usage? none found.others <;> simp only [hu] at h <;> contradiction
  case none =>
    cases hb : search bareUsage? none s <;> cases hu : search usage? none s <;> rw [hb, hu] at h <;> cases h <;> rfl

-- The level of a statement, and the text of its clauses but for what is redefined.
def clauseText? (s : Text) : Option (Nat × Text) :=
  (header? (Text.dropRight (· == '.') (collapse s))).map fun (level, name, rest) =>
    (level, (redefinesIn (nameOrFiller name rest).2).2)

theorem not_blank_of_clauseText? (h : clauseText? s = some (level, u)) : ¬s.all isBlank := by
  intro hb
  have hs : Text.strip s = [] := by
    rw [Text.strip, List.dropWhile_eq_nil_iff.mpr (List.all_eq_true.mp hb)]
    rfl
  rw [clauseText?, collapse, hs] at h
  contradiction

-- The levels of items, independent ones among them.
def IsItemLevel (level : Nat) : Prop :=
  1 ≤ level ∧ level ≤ 49 ∨ level = 77

instance : Decidable (IsItemLevel level) :=
  inferInstanceAs (Decidable (_ ∨ _))

-- A statement that can be read declares an item, if its level is one of an item.
theorem declarations_of_declare {name : Text} {c : Clauses} (h : declare s = .ok (level, name, c))
    (hb : ¬s.all isBlank) (hl : IsItemLevel level) :
    declarations [s] = .ok [Nesting.place {} (effectiveLevel level) name c s] := by
  have hs : isSkipped level = false := by
    simp only [isSkipped, Bool.or_eq_false_iff, beq_eq_false_iff_ne]
    simp only [IsItemLevel] at hl
    omega
  have hr : ¬(effectiveLevel level < 1 ∨ 49 < effectiveLevel level) := by
    simp only [IsItemLevel] at hl
    unfold effectiveLevel
    split <;> omega
  rw [declarations, declarationsFrom, if_neg hb, h]
  change (if isSkipped level then _ else _) = _
  rw [hs, if_neg Bool.false_ne_true, if_neg hr]
  rfl

-- Whether an item comes of a statement depends on what is left of the clauses when the literal has been read.
theorem declarations_singleton (h : clauseText? s = some (level, u)) (hl : IsItemLevel level) :
    (∀ fault, settle (valueIn u).2 = .error fault → declarations [s] = .error ⟨fault, s⟩) ∧
    ∀ count picture, settle (valueIn u).2 = .ok (count, picture) →
      ∃ d, declarations [s] = .ok [d] ∧ d.occurs = count := by
  have hb := not_blank_of_clauseText? h
  obtain ⟨⟨level, name, rest⟩, hh, he⟩ := Option.map_eq_some_iff.mp h
  obtain ⟨rfl, rfl⟩ := Prod.mk.inj he
  have hd : declare s = (settle (valueIn (redefinesIn (nameOrFiller name rest).2).2).2).map fun found =>
      (level, normalizeName (nameOrFiller name rest).1, ⟨(redefinesIn (nameOrFiller name rest).2).1,
        (valueIn (redefinesIn (nameOrFiller name rest).2).2).1, found.1, found.2⟩) := by
    rw [declare, hh]
    simp only [clauses_eq]
    cases settle (valueIn (redefinesIn (nameOrFiller name rest).2).2).2 <;> rfl
  constructor
  case left =>
    intro fault hf
    rw [declarations, declarationsFrom, if_neg hb, hd, hf]
    rfl
  case right =>
    intro count picture hf
    rw [hf] at hd
    exact ⟨_, declarations_of_declare hd hb hl, rfl⟩

-- A text with a quotation mark for each character of its literals.
def masked (quote : Option Char) : Text → Text
  | [] => []
  | c :: s => (if quote.isSome || isQuote c then '\'' else c) :: masked (openAfter quote c) s

-- The words of a text, those in its literals being none.
def bareWords (s : Text) : List Text :=
  words (masked none s)

-- After the word `OCCURS` comes a number of occurrences, which is not the first of a range and depends on nothing.
def Counts (n : Nat) : List Text → Prop
  | [] => False
  | count :: after => count.all isDecimalDigit ∧ Text.toNat count = n ∧ 0 < n ∧
    (∀ w ∈ after.head?, keyword? "TO".toList w ≠ some []) ∧ ∀ w ∈ after, keyword? "DEPENDING".toList w ≠ some []

-- This is so wherever the word stands.
def Heeds (n : Nat) : List Text → Prop
  | [] => True
  | w :: ws => (keyword? "OCCURS".toList w = some [] → Counts n ws) ∧ Heeds n ws

instance : Decidable (Counts n ws) :=
  match ws with
  | [] => inferInstanceAs (Decidable False)
  | _ :: _ => inferInstanceAs (Decidable (_ ∧ _ ∧ _ ∧ _ ∧ _))

def decideHeeds (n : Nat) : (ws : List Text) → Decidable (Heeds n ws)
  | [] => inferInstanceAs (Decidable True)
  | _ :: ws =>
    have := decideHeeds n ws
    inferInstanceAs (Decidable ((_ → _) ∧ _))

instance : Decidable (Heeds n ws) :=
  decideHeeds n ws

-- What is wrong with a statement is said.
def Rejected (s : Text) : Prop :=
  ∃ e, declarations [s] = .error e ∧ e.kind.isSourceFault

-- No number of occurrences is ignored or taken for another: the statement is rejected, or its item has as many of them
-- as the word says.
def Heard (s u : Text) : Prop :=
  Rejected s ∨ ∃ d n, declarations [s] = .ok [d] ∧ d.occurs = some n ∧ Heeds n (bareWords u)

-- What comes of the clauses when the literal has been read: they are rejected for one reason or another, or the number is
-- kept.
theorem settle_cases (s : Text) :
    (Dependent (words s) ∧ settle s = .error .dependingOn) ∨
    ¬Dependent (words s) ∧
      ((∃ digits ∈ firstCount? (words s), maxDigits < digits.length ∧
        settle s = .error (.digits (.read digits.length))) ∨
      (∃ digits ∈ firstCount? (words s), digits.length ≤ maxDigits ∧ Text.toNat digits = 0 ∧
        settle s = .error .noOccurrences) ∨
      (∀ digits ∈ firstCount? (words s), digits.length ≤ maxDigits ∧ Text.toNat digits ≠ 0) ∧
        settle s = (pictureIn (uncounted s)).map fun picture =>
          ((firstCount? (words s)).map Text.toNat, picture)) := by
  rw [settle, occursIn_eq]
  by_cases hd : Dependent (words s)
  case pos => exact .inl ⟨hd, by rw [if_pos hd]; rfl⟩
  case neg =>
    refine .inr ⟨hd, ?_⟩
    rw [if_neg hd]
    cases firstCount? (words s)
    case none =>
      refine .inr (.inr ⟨fun _ he => absurd he (Option.not_mem_none _), ?_⟩)
      simp only [ok_bind]
      cases pictureIn (uncounted s) <;> rfl
    case some digits =>
      by_cases hl : maxDigits < digits.length
      case pos => exact .inl ⟨digits, rfl, hl, by simp only [if_pos hl]; rfl⟩
      case neg =>
        refine .inr ?_
        by_cases hz : Text.toNat digits = 0
        case pos => exact .inl ⟨digits, rfl, Nat.not_lt.mp hl, hz, by simp only [if_neg hl, if_pos hz]; rfl⟩
        case neg =>
          refine .inr ⟨fun digits' he => ?_, ?_⟩
          · cases he
            exact ⟨Nat.not_lt.mp hl, hz⟩
          · simp only [if_neg hl, if_neg hz, ok_bind]
            cases pictureIn (uncounted s) <;> rfl

-- The clauses are not ones of an item: they depend on something, there are no occurrences, or there is a usage without a
-- picture. A number that is too long to be read ends the reading before the last two are found out.
def Refused (s : Text) : Prop :=
  Dependent (words s) ∨ (∀ digits ∈ firstCount? (words s), digits.length ≤ maxDigits) ∧
    ((∃ digits ∈ firstCount? (words s), Text.toNat digits = 0) ∨ UsageAlone (uncounted s))

-- A statement is rejected, or its number is too long, or its item has as many occurrences as the number says.
theorem outcome (h : clauseText? s = some (level, u)) (hl : IsItemLevel level) :
    (Refused (valueIn u).2 ∧ Rejected s) ∨
    ¬Refused (valueIn u).2 ∧
      ((∃ digits ∈ firstCount? (words (valueIn u).2), maxDigits < digits.length) ∧
        (∃ e, declarations [s] = .error e ∧ e.kind = .tooManyDigits) ∨
      (∀ digits ∈ firstCount? (words (valueIn u).2), digits.length ≤ maxDigits ∧ Text.toNat digits ≠ 0) ∧
        ∃ d, declarations [s] = .ok [d] ∧ d.occurs = (firstCount? (words (valueIn u).2)).map Text.toNat) := by
  obtain ⟨herror, hok⟩ := declarations_singleton h hl
  rcases settle_cases (valueIn u).2 with ⟨hd, hs⟩ | ⟨hd, ⟨digits, hf, hlong, hs⟩ | ⟨digits, hf, hshort, hz, hs⟩ | ⟨hf, hs⟩⟩
  case inl => exact .inl ⟨.inl hd, _, herror _ hs, rfl⟩
  case inr.inl =>
    refine .inr ⟨fun hr => ?_, .inl ⟨⟨digits, hf, hlong⟩, _, herror _ hs, rfl⟩⟩
    rcases hr with hr | ⟨hr, -⟩
    · exact hd hr
    · exact absurd (hr digits hf) (Nat.not_le.mpr hlong)
  case inr.inr.inl =>
    refine .inl ⟨.inr ⟨fun digits' hf' => ?_, .inl ⟨digits, hf, hz⟩⟩, _, herror _ hs, rfl⟩
    exact Option.mem_unique hf' hf ▸ hshort
  case inr.inr.inr =>
    cases hp : pictureIn (uncounted (valueIn u).2) <;> rw [hp] at hs
    case error fault =>
      have hu := usageAlone_iff.mpr ⟨fault, hp⟩
      exact .inl ⟨.inr ⟨fun digits hd => (hf digits hd).left, .inr hu⟩, _, herror _ hs, isSourceFault_of_pictureIn hp⟩
    case ok picture =>
      refine .inr ⟨fun hr => ?_, .inr ⟨hf, hok _ picture hs⟩⟩
      rcases hr with hr | ⟨-, ⟨digits, hm, hz⟩ | hr⟩
      · exact hd hr
      · exact (hf digits hm).right hz
      · obtain ⟨fault, he⟩ := usageAlone_iff.mp hr
        exact absurd (hp.symm.trans he) nofun

-- An item has as many occurrences as the first number after the word says, or none if there is no such number, and only
-- a number that is too long to be read makes another fault than those that say what is wrong with a statement. So the
-- word is heard if the statement is rejected, or if the first number is the one that every such word says.
theorem occurs_heard_iff (h : clauseText? s = some (level, u)) (hl : IsItemLevel level) :
    (∀ ds, declarations [s] = .ok ds →
      ∃ d, ds = [d] ∧ d.occurs = (firstCount? (words (valueIn u).2)).map Text.toNat) ∧
    (∀ e, declarations [s] = .error e → e.kind.isSourceFault ∨
      ∃ digits ∈ firstCount? (words (valueIn u).2), maxDigits < digits.length) ∧
    (Heard s u ↔ Refused (valueIn u).2 ∨ ∃ digits ∈ firstCount? (words (valueIn u).2),
      digits.length ≤ maxDigits ∧ Text.toNat digits ≠ 0 ∧ Heeds (Text.toNat digits) (bareWords u)) := by
  rcases outcome h hl with ⟨hr, e, he, hk⟩ | ⟨hr, ⟨⟨digits, hf, hlong⟩, e, he, hk⟩ | ⟨hf, d, hd, ho⟩⟩
  case inl =>
    refine ⟨fun ds hds => absurd (he.symm.trans hds) nofun, fun e' he' => ?_, iff_of_true (.inl ⟨e, he, hk⟩) (.inl hr)⟩
    cases he.symm.trans he'
    exact .inl hk
  case inr.inl =>
    refine ⟨fun ds hds => absurd (he.symm.trans hds) nofun, fun _ _ => .inr ⟨digits, hf, hlong⟩, iff_of_false ?_ ?_⟩
    · rintro (⟨e', he', hk'⟩ | ⟨d, n, hd, -⟩)
      · cases he.symm.trans he'
        rw [hk] at hk'
        contradiction
      · exact absurd (he.symm.trans hd) nofun
    · rintro (hr' | ⟨digits', hf', hshort, -⟩)
      · exact hr hr'
      · exact absurd (Option.mem_unique hf' hf ▸ hshort) (Nat.not_le.mpr hlong)
  case inr.inr =>
    refine ⟨fun ds hds => ⟨d, Except.ok.inj (hds.symm.trans hd), ho⟩, fun e he => absurd (hd.symm.trans he) nofun, ?_⟩
    constructor
    · rintro (⟨e, he, -⟩ | ⟨d', n, hd', ho', hh⟩)
      · exact absurd (hd.symm.trans he) nofun
      · cases hd.symm.trans hd'
        obtain ⟨digits, hm, rfl⟩ := Option.map_eq_some_iff.mp (ho.symm.trans ho')
        exact .inr ⟨digits, hm, (hf digits hm).left, (hf digits hm).right, hh⟩
    · rintro (hr' | ⟨digits, hm, -, -, hh⟩)
      · exact absurd hr' hr
      · exact .inr ⟨d, _, hd, ho.trans (Option.map_eq_some_iff.mpr ⟨digits, hm, rfl⟩), hh⟩

theorem table_heard :
    clauseText? "05 T OCCURS 5 TIMES PIC X".toList = some (5, "OCCURS 5 TIMES PIC X".toList) ∧ IsItemLevel 5 ∧
      Heard "05 T OCCURS 5 TIMES PIC X".toList "OCCURS 5 TIMES PIC X".toList := by
  have h : clauseText? "05 T OCCURS 5 TIMES PIC X".toList = some (5, "OCCURS 5 TIMES PIC X".toList) := by decide +kernel
  have hc : firstCount? (words (valueIn "OCCURS 5 TIMES PIC X".toList).2) = some "5".toList := by decide +kernel
  have hh : Heeds (Text.toNat "5".toList) (bareWords "OCCURS 5 TIMES PIC X".toList) := by decide +kernel
  exact ⟨h, by decide, (occurs_heard_iff h (by decide)).right.right.mpr (.inr ⟨_, hc, by decide, by decide, hh⟩)⟩

-- Without the word `ON` a table is taken to be as long as it is at least.
theorem not_every_occurs_heard : ¬∀ s level u, clauseText? s = some (level, u) → IsItemLevel level →
    (∃ w ∈ bareWords u, keyword? "OCCURS".toList w = some []) → Heard s u := by
  intro h
  have hd : ((declarations ["05 ITEMS OCCURS 1 TO 5 TIMES DEPENDING N PIC X".toList]).toOption.map fun ds =>
      ds.map (·.occurs)) = some [some 1] := by decide +kernel
  obtain ⟨ds, hd, ho⟩ := Option.map_eq_some_iff.mp hd
  rw [toOption_eq_some_iff] at hd
  rcases h "05 ITEMS OCCURS 1 TO 5 TIMES DEPENDING N PIC X".toList 5 "OCCURS 1 TO 5 TIMES DEPENDING N PIC X".toList
    (by decide +kernel) (by decide) (by decide +kernel) with ⟨e, he, -⟩ | ⟨d, n, hd', hn, hh⟩
  · exact absurd (hd.symm.trans he) nofun
  · cases hd.symm.trans hd'
    cases hn.symm.trans (List.cons.inj ho).left
    exact absurd hh (by decide +kernel)

end Source
end Copybook
