import Copybook.Proofs.Source.Order

/-!
Items as they are declared: a level, a name, what is redefined, and clauses in any order. The name may be missing if the
word in its place begins a clause.
-/

namespace Copybook
namespace Source

open Clause

variable {s t : Text} {c : Char} {parts : List Part}

-- `REDEFINES target`.
structure Redefinition where
  keyword : Text
  target : Text
  spelled : Text.Spells "REDEFINES".toList keyword
  named : IsName target

def Redefinition.words (r : Redefinition) : List Text :=
  [r.keyword, r.target]

def clausesIn (redefinition : Option Redefinition) (parts : List Part) : List Text :=
  (redefinition.map Redefinition.words).getD [] ++ parts.flatMap Part.words

structure Item where
  level : Text
  name : Option Text
  redefinition : Option Redefinition
  parts : List Part
  leveled : IsLevel level
  named : ∀ n ∈ name, IsName n
  proper : ∀ n ∈ name, n.upper ∉ clauseWords
  unnamed : name = none → BeginsClause (clausesIn redefinition parts)
  distinct : (parts.map Part.kind).Nodup
  keyed : Keyed parts
  unbroken : ∀ v, .value v ∈ parts → '\n' ∉ v.literal.text

namespace Item

def clauseWords (d : Item) : List Text :=
  clausesIn d.redefinition d.parts

-- The words of the statement that declares the item.
def words (d : Item) : List Text :=
  d.level :: (d.name.toList ++ d.clauseWords)

-- An item without a name is a filler.
def knownAs (d : Item) : Text :=
  d.name.elim fillerName shownName

-- What the statement says.
def reading (d : Item) : Except SourceFault (Nat × Text × Clauses) := do
  let count ← countOf d.parts
  let picture ← pictureOf d.parts
  let literal := (d.parts.findSome? Part.valueClause?).map (·.literal.text)
  return (Text.toNat d.level, d.knownAs, ⟨d.redefinition.map (normalizeName ·.target), literal, count, picture⟩)

end Item

theorem trail_flatMap (parts : List Part) : Text.trail (parts.flatMap Part.words) = Text.trail (parts.map Part.text) := by
  induction parts
  case nil => rfl
  case cons p parts hi =>
    rw [List.flatMap_cons, Text.trail_append, hi, Text.trail_of_ne_nil p.words_ne_nil]
    rfl

theorem join_flatMap (parts : List Part) :
    Text.join [' '] (parts.flatMap Part.words) = Text.join [' '] (parts.map Part.text) := by
  cases parts
  case nil => rfl
  case cons p parts =>
    have hn : (p :: parts).flatMap Part.words ≠ [] := by simp [p.words_ne_nil]
    have ht := trail_flatMap (p :: parts)
    rw [Text.trail_of_ne_nil hn, Text.trail_of_ne_nil (by simp)] at ht
    exact (List.cons.inj ht).right

theorem map_shown_nil (parts : List Part) : parts.map (Part.shown []) = parts.map Part.text :=
  List.map_congr_left fun _ _ => Part.shown_of_not_mem List.not_mem_nil

theorem redefines?_of_parts (parts : List Part) : redefines? (Text.join [' '] (parts.map Part.text)) = none := by
  have hk : keyword? "REDEFINES".toList (Text.join [' '] (parts.map Part.text)) = none := by
    cases parts
    case nil => rfl
    case cons p parts =>
      rw [List.map_cons, Text.join_cons]
      exact p.keyword?_text (by decide) (beginsBlank_trail _)
  rw [redefines?, phrase?_of_keyword? hk]
  rfl

namespace Redefinition

theorem takes (r : Redefinition) (ht : beginsBlank t) :
    redefines? (r.keyword ++ ' ' :: (r.target ++ t)) = some (r.target, t) := by
  have hchar : ∀ c ∈ r.target, isTargetChar c := by
    intro c hc
    have hn := r.named.right c hc
    simp only [isNameChar, Bool.or_eq_true, beq_iff_eq] at hn
    simp [isTargetChar, hn]
  obtain ⟨htake, hdrop⟩ := takeWhile_append_of_beginsBlank hchar
    (fun _ => eq_false_of_isBlank (by decide +kernel)) ht
  rw [redefines?, phrase?_spells r.spelled r.named.isToken.toIsWord.begun]
  simp only [Option.bind_eq_bind, Option.bind_some, htake, hdrop]
  simp [r.named.left]

theorem isToken (r : Redefinition) : ∀ w ∈ r.words, IsToken w :=
  List.forall_mem_cons.mpr
    ⟨isToken_of_spells (rfl : arePlain ["REDEFINES".toList]) List.mem_cons_self r.spelled,
      List.forall_mem_singleton.mpr r.named.isToken⟩

end Redefinition

namespace Item

variable (d : Item)

theorem isPiece_clauseWords : ∀ w ∈ d.clauseWords, IsPiece w := by
  refine List.forall_mem_append.mpr ⟨?_, fun w hw => ?_⟩
  · cases d.redefinition
    case none => exact nofun
    case some r => exact fun w hw => (r.isToken w hw).isPiece
  · obtain ⟨p, -, hw⟩ := List.mem_flatMap.mp hw
    exact p.isPiece w hw

theorem not_mem_newline : '\n' ∉ Text.join [' '] d.clauseWords := by
  intro h
  rcases Text.mem_join h with h | ⟨w, hw, h⟩
  · exact absurd h (by decide)
  rcases List.mem_append.mp hw with hw | hw
  case inl =>
    cases hr : d.redefinition
    case none => simp [hr] at hw
    case some r =>
      rw [hr] at hw
      exact (r.isToken w hw).not_mem_newline h
  case inr =>
    obtain ⟨p, hp, hw⟩ := List.mem_flatMap.mp hw
    rcases p.isToken_or_literal w hw with ht | ⟨v, rfl, hv⟩
    · exact ht.not_mem_newline h
    · exact d.unbroken v hp (Text.mem_join_of_mem hv h)

-- The target is read, and the clauses are left.
theorem redefinesIn_clauseWords : ∃ gap : List Text, (∀ s ∈ gap, s = []) ∧
    redefinesIn (Text.join [' '] d.clauseWords) =
      (d.redefinition.map (normalizeName ·.target), remaining gap [] d.parts) := by
  rw [clauseWords, clausesIn]
  cases d.redefinition
  case none =>
    refine ⟨[], nofun, ?_⟩
    rw [Option.map_none, Option.getD_none, List.nil_append, join_flatMap, redefinesIn, redefines?_of_parts, remaining,
      map_shown_nil]
    rfl
  case some r =>
    refine ⟨[[]], by simp, ?_⟩
    have he : Text.join [' '] (r.words ++ d.parts.flatMap Part.words) =
        r.keyword ++ ' ' :: (r.target ++ Text.trail (d.parts.map Part.text)) := by
      rw [Redefinition.words, List.cons_append, Text.join_cons, List.singleton_append, Text.trail_cons, trail_flatMap]
    rw [Option.map_some, Option.getD_some, he, redefinesIn, r.takes (beginsBlank_trail _), remaining, map_shown_nil,
      List.singleton_append, Text.join_cons]
    rfl

-- The clauses are read from their words, whether there is a name before them or not.
theorem declare_clauses (hs : Spaced d.words s) :
    declare s = (clauses (Text.join [' '] d.clauseWords)).map fun c => (Text.toNat d.level, d.knownAs, c) := by
  rw [words] at hs
  cases hn : d.name <;> rw [hn] at hs
  case none =>
    have hc : BeginsClause d.clauseWords := d.unnamed hn
    rw [declare_unnamed d.leveled hc d.isPiece_clauseWords hs, if_neg d.not_mem_newline, knownAs, hn]
    rfl
  case some name =>
    rw [declare_spaced d.leveled (d.named name hn) (d.proper name hn) d.isPiece_clauseWords hs, if_neg d.not_mem_newline,
      knownAs, hn]
    rfl

-- The statement is read as it is meant.
theorem declare_words (hu : Uncaptured d.parts) (hs : Spaced d.words s) : declare s = d.reading := by
  obtain ⟨gap, hg, hr⟩ := d.redefinesIn_clauseWords
  rw [d.declare_clauses hs, clauses_remaining hg d.distinct d.keyed hu hr, reading]
  cases countOf d.parts
  case error => rfl
  case ok count => cases pictureOf d.parts <;> rfl

-- The clause of each kind, if there is one.

def value? : Option ValueClause :=
  d.parts.findSome? Part.valueClause?

def occurs? : Option OccursClause :=
  d.parts.findSome? Part.occursClause?

def key? : Option KeyPhrase :=
  d.parts.findSome? Part.keyPhrase?

def picture? : Option PictureClause :=
  d.parts.findSome? Part.pictureClause?

def usage? : Option UsageClause :=
  d.parts.findSome? Part.usageClause?

-- The picture with the usage after it, in capitals.
def format? : Option Text :=
  d.picture?.map fun p =>
    match d.usage? with
    | some u => p.format.upper ++ ' ' :: u.item.upper
    | none => p.format.upper

-- No key is named, a usage is one of numbers and has a picture with it, and the count can be read.
structure IsOrdinary : Prop where
  keyless : d.key? = none
  stored : ∀ u ∈ d.usage?, OneOf storageUsages u.item ∧ d.picture?.isSome
  counted : ∀ o ∈ d.occurs?, o.count.length ≤ maxDigits

theorem kind_ne_of_keyless (h : d.key? = none) : ∀ q ∈ d.parts, q.kind ≠ .key :=
  kind_ne_key h

theorem uncaptured_of_keyless (h : d.key? = none) : Uncaptured d.parts := by
  intro pre k post he
  exact absurd rfl (d.kind_ne_of_keyless h (.key k) (by simp [he]))

theorem countOf_of_short (h : ∀ o ∈ d.occurs?, o.count.length ≤ maxDigits) :
    countOf d.parts = .ok (d.occurs?.map (Text.toNat ·.count)) := by
  cases ho : d.occurs?
  case none => rw [countOf_of_none ho, Option.map_none]
  case some o =>
    rw [countOf_of_some ho, Text.readNat_eq_ok (h o ho)]
    rfl

theorem pictureOf_of_stored (h : ∀ u ∈ d.usage?, OneOf storageUsages u.item ∧ d.picture?.isSome) :
    pictureOf d.parts = .ok d.format? := by
  have hheard : usageOf d.parts = d.usage?.bind UsageClause.heard := rfl
  rw [format?]
  cases hu : d.usage?
  case none =>
    cases hp : d.picture?
    case none => rw [pictureOf_of_none hp hu, Option.map_none]
    case some p =>
      rw [pictureOf_of_some hp, hheard, hu, Option.map_some]
      rfl
  case some u =>
    obtain ⟨hs, hp⟩ := h u hu
    obtain ⟨p, hp⟩ := Option.isSome_iff_exists.mp hp
    rw [pictureOf_of_some hp, hheard, hu, Option.bind_some, u.heard_of_storageUsage hs, hp, Option.map_some]

-- Clauses may be written in any order: what is read of an item is what its clauses say.
theorem declare_of_isOrdinary (h : d.IsOrdinary) (hs : Spaced d.words s) : declare s =
    .ok (Text.toNat d.level, d.knownAs,
      ⟨d.redefinition.map (normalizeName ·.target), d.value?.map (·.literal.text),
        d.occurs?.map (Text.toNat ·.count), d.format?⟩) := by
  rw [d.declare_words (d.uncaptured_of_keyless h.keyless) hs, reading, d.countOf_of_short h.counted,
    d.pictureOf_of_stored h.stored]
  rfl

-- A count of more digits than a number is read from is not read.
theorem declare_of_long_count (hk : d.key? = none) {o : OccursClause} (ho : d.occurs? = some o)
    (hl : maxDigits < o.count.length) (hs : Spaced d.words s) :
    declare s = .error (.digits (.read o.count.length)) := by
  have hc : countOf d.parts = .error (.digits (.read o.count.length)) := by
    rw [countOf_of_some ho, Text.readNat, if_pos hl]
    rfl
  rw [d.declare_words (d.uncaptured_of_keyless hk) hs, reading, hc]
  rfl

end Item

theorem keyed_of_keyless (h : ∀ k, .key k ∉ parts) : Keyed parts := by
  intro pre k post he
  exact absurd (he ▸ by simp) (h k)

theorem isLevel_five : IsLevel "05".toList :=
  ⟨List.all_eq_true.mp rfl, by decide, by decide⟩

-- `OCCURS 5`
def five : OccursClause :=
  .untimed "OCCURS".toList "5".toList rfl (List.all_eq_true.mp rfl) (Nat.succ_ne_zero 4)

-- `comp-3` comes before the picture that it belongs to, and there is a picture in the literal.
def amount : Item where
  level := "05".toList
  name := some "AMOUNT".toList
  redefinition := none
  parts := [
    .value (.unlinked "value".toList (.ofContent "PIC X".toList) (by decide)),
    .usage ⟨[], "comp-3".toList, ⟨[], by decide, .nil⟩, isPlain_of_storageUsage (by decide), fun _ => by decide⟩,
    .occurs five,
    .picture (.unlinked "Pic".toList "s9(3)".toList (by decide) (by decide) (by decide) (by decide))]
  leveled := isLevel_five
  named _ hn := by
    cases hn
    exact ⟨by decide, List.all_eq_true.mp rfl⟩
  proper _ hn := by
    cases hn
    decide +kernel
  unnamed hn := by contradiction
  distinct := by decide
  keyed := keyed_of_keyless (by simp)
  unbroken := by
    intro v hv
    simp only [List.mem_cons, List.not_mem_nil, or_false, Part.value.injEq, reduceCtorEq] at hv
    subst hv
    decide

theorem amount_isOrdinary : amount.IsOrdinary where
  keyless := rfl
  stored _ hu := by
    cases hu
    exact ⟨by decide, rfl⟩
  counted _ ho := by
    cases ho
    decide

theorem amount_read : amount.IsOrdinary ∧
    declare "05 AMOUNT value 'PIC X' comp-3 OCCURS 5 Pic s9(3)".toList =
      .ok (5, "AMOUNT".toList, ⟨none, some "'PIC X'".toList, some 5, some "S9(3) COMP-3".toList⟩) :=
  ⟨amount_isOrdinary, amount.declare_of_isOrdinary amount_isOrdinary (Spaced.join (List.cons_ne_nil _ _))⟩

-- A digit and zeros after it.
def longCount : Text :=
  '1' :: List.replicate maxDigits '0'

theorem toNat_longCount : Text.toNat longCount = 10 ^ maxDigits := by
  rw [longCount]
  induction maxDigits
  case zero => rfl
  case succ n hi =>
    rw [List.replicate_succ', ←List.cons_append, Text.toNat_concat, hi, show digitValue? '0' = some 0 from rfl,
      Option.getD_some, Nat.add_zero, Nat.pow_succ]

def longTable : Item where
  level := "05".toList
  name := some "A".toList
  redefinition := none
  parts := [.occurs (.untimed "OCCURS".toList longCount rfl
    (List.forall_mem_cons.mpr ⟨rfl, fun _ hc => List.eq_of_mem_replicate hc ▸ rfl⟩)
    (toNat_longCount ▸ (Nat.pow_pos (by decide)).ne'))]
  leveled := isLevel_five
  named _ hn := by
    cases hn
    exact ⟨by decide, List.all_eq_true.mp rfl⟩
  proper _ hn := by
    cases hn
    decide +kernel
  unnamed hn := by contradiction
  distinct := by decide
  keyed := keyed_of_keyless (by simp)
  unbroken := by simp

-- Ten to the power of that many digits is a count of one digit more.
theorem not_every_count_read : declare ("05 A OCCURS ".toList ++ longCount) = .error (.digits (.read (maxDigits + 1))) := by
  have hl : longCount.length = maxDigits + 1 := by rw [longCount, List.length_cons, List.length_replicate]
  rw [←hl]
  exact longTable.declare_of_long_count rfl rfl (hl ▸ Nat.lt_succ_self maxDigits) (Spaced.join (List.cons_ne_nil _ _))

end Source
end Copybook
