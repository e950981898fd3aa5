import Copybook.Proofs.Layout.Containment
import Copybook.Proofs.Layout.Nesting
import Copybook.Proofs.Source.Declaration
import Copybook.Proofs.Text.Digits
import Copybook.Proofs.Text.Pieces
import Copybook.Proofs.Text.Trim

/-!
A path that is written as text leads to the same node as the names and indexes that it is written with, applied one
after another. What is written is read back as it was, and each name and each index then means the same.
-/

namespace Copybook

namespace Text

variable {s t : Text} {c : Char}

theorem isNameChar_of_mem_ofNat {n : Nat} (h : c ∈ ofNat n) : Source.isNameChar c := by
  have ⟨d, hd, h⟩ := digit_of_mem_ofNat h
  have all : ∀ d : Fin 10, Source.isNameChar (Nat.digitChar d) := by decide
  exact h ▸ all ⟨d, hd⟩

theorem takeSign_ofInt (i : Int) : takeSign (ofInt i) = (decide (i < 0), ofNat i.natAbs) := by
  unfold ofInt
  split
  case isTrue h => simp [takeSign, h]
  case isFalse h =>
    obtain ⟨c, s, hs⟩ := ofNat_cons i.natAbs
    obtain ⟨d, hd, hc⟩ := digit_of_mem_ofNat (hs ▸ List.mem_cons_self : c ∈ ofNat i.natAbs)
    have all : ∀ d : Fin 10, Nat.digitChar d ≠ '-' ∧ Nat.digitChar d ≠ '+' := by decide
    obtain ⟨hm, hp⟩ := all ⟨d, hd⟩
    rw [hs, takeSign_of_ne (hc ▸ hm) (hc ▸ hp)]
    simp [h]

theorem signed_natAbs (i : Int) : signed (decide (i < 0)) i.natAbs = i := by
  unfold signed
  split
  case isTrue h => rw [Int.ofNat_natAbs_of_nonpos (by simp at h; omega), Int.neg_neg]
  case isFalse h => exact Int.natAbs_of_nonneg (by simpa using h)

end Text

theorem toNat_of_isNameChar {c : Char} (h : Source.isNameChar c) : 0x21 ≤ c.toNat ∧ c.toNat < 0x7f := by
  simp only [Source.isNameChar, Bool.or_eq_true, beq_iff_eq] at h
  rcases h with (h | h) | h
  · have := toNat_of_isAlphanum h
    omega
  · simp [h]
  · simp [h]

theorem isBlank_of_graphic {c : Char} (h : 0x21 ≤ c.toNat ∧ c.toNat < 0x7f) : isBlank c = false := by
  simp only [isBlank, Bool.or_eq_false_iff, Bool.and_eq_false_iff, decide_eq_false_iff_not, beq_eq_false_iff_ne]
  omega

namespace PathPart

open Source

variable {s : Text}

theorem indexesFrom_digits {digits : Text} (h : ∀ c ∈ digits, isDecimalDigit c) (read rest : Text) :
    indexesFrom (some read) (digits ++ rest) = indexesFrom (some (digits.reverse ++ read)) rest := by
  induction digits generalizing read
  case nil => rfl
  case cons c digits hi =>
    have ⟨hc, h⟩ := List.forall_mem_cons.mp h
    simp only [List.cons_append, indexesFrom, hc, Bool.true_or, if_true, hi h]
    simp

-- An index that is written in brackets is read as it is written.
theorem indexesFrom_index (i : Int) (rest : Text) :
    indexesFrom none ('[' :: (Text.ofInt i ++ ']' :: rest)) =
      (indexesFrom none rest).map (Text.ofInt i :: ·) := by
  have hd : ∀ c ∈ Text.ofNat i.natAbs, isDecimalDigit c := fun c => Text.isDecimalDigit_of_mem_ofNat
  have close (read : Text) : indexesFrom (some read) (Text.ofNat i.natAbs ++ ']' :: rest) =
      (indexesFrom none rest).map ((read.reverse ++ Text.ofNat i.natAbs) :: ·) := by
    have ha : ((Text.ofNat i.natAbs).reverse ++ read).any isDecimalDigit := by
      have ⟨c, s, hs⟩ := Text.ofNat_cons i.natAbs
      have hc := hd c (hs ▸ List.mem_cons_self)
      exact List.any_eq_true.mpr ⟨c, by simp [hs], hc⟩
    have hb : isDecimalDigit ']' = false := by decide
    rw [indexesFrom_digits hd, indexesFrom]
    simp [hb, ha]
  have hm : isDecimalDigit '-' = false := by decide
  rw [Text.ofInt]
  split
  case isTrue => simpa [indexesFrom, hm] using close ['-']
  case isFalse => simpa [indexesFrom] using close []

theorem indexValue_ofInt {i : Int} (h : i.natAbs < 10 ^ maxDigits) : indexValue (Text.ofInt i) = .ok i := by
  rw [indexValue, Text.takeSign_ofInt]
  simp only [Text.readNat_ofNat h, Except.map]
  rw [Text.signed_natAbs]

theorem indexValue_ofInt_cases (i : Int) :
    indexValue (Text.ofInt i) = .ok i ∨ ∃ e, indexValue (Text.ofInt i) = .error e := by
  cases h : indexValue (Text.ofInt i)
  case error e => exact .inr ⟨e, rfl⟩
  case ok j =>
    rw [indexValue, Text.takeSign_ofInt] at h
    simp only [Text.readNat] at h
    split at h
    case isTrue => contradiction
    case isFalse =>
      cases h
      rw [Text.toNat_ofNat, Text.signed_natAbs]
      exact .inl rfl

end PathPart

-- A name in a path, and the indexes after it.
structure PathStep where
  name : Text
  indexes : List Int

namespace PathStep

def IsProper (s : PathStep) : Prop :=
  s.name ≠ [] ∧ ∀ c ∈ s.name, Source.isNameChar c

instance (s : PathStep) : Decidable s.IsProper :=
  decidable_of_iff (s.name ≠ [] ∧ s.name.all Source.isNameChar) (and_congr_right fun _ => List.all_eq_true)

-- The way a step is written: the name, and each index in brackets.
def written (s : PathStep) : Text :=
  s.name ++ s.indexes.flatMap fun i => '[' :: (Text.ofInt i ++ [']'])

-- The keys that the step is made of, to be applied one after another.
def keys (s : PathStep) : List Value :=
  .text s.name :: s.indexes.map .int

-- The path of some steps as a text.
def path (steps : List PathStep) : Text :=
  Text.join ['.'] (steps.map written)

variable {s : PathStep}

theorem toNat_of_mem_written (h : s.IsProper) {c : Char} (hc : c ∈ s.written) :
    0x21 ≤ c.toNat ∧ c.toNat < 0x7f ∧ c ≠ '.' := by
  have name {c : Char} (hc : Source.isNameChar c) : 0x21 ≤ c.toNat ∧ c.toNat < 0x7f ∧ c ≠ '.' :=
    ⟨(toNat_of_isNameChar hc).left, (toNat_of_isNameChar hc).right, fun he => absurd (he ▸ hc) (by decide)⟩
  rw [written, List.mem_append, List.mem_flatMap] at hc
  rcases hc with hc | ⟨i, _, hc⟩
  · exact name (h.right c hc)
  · simp only [List.mem_cons, List.mem_append, List.not_mem_nil, or_false] at hc
    rcases hc with hc | hc | hc
    · exact hc ▸ by decide
    · unfold Text.ofInt at hc
      split at hc
      case isTrue =>
        cases List.mem_cons.mp hc
        case inl hc => exact hc ▸ by decide
        case inr hc => exact name (Text.isNameChar_of_mem_ofNat hc)
      case isFalse => exact name (Text.isNameChar_of_mem_ofNat hc)
    · exact hc ▸ by decide

theorem ofText?_written (h : s.IsProper) :
    PathPart.ofText? s.written = some ⟨s.written, s.name, s.indexes.map Text.ofInt⟩ := by
  have hs : Text.strip s.written = s.written :=
    Text.strip_of_not_blank fun c hc =>
      have ⟨hl, hr, _⟩ := toNat_of_mem_written h hc
      isBlank_of_graphic ⟨hl, hr⟩
  have hi (indexes : List Int) : PathPart.indexesFrom none
      (indexes.flatMap fun i => '[' :: (Text.ofInt i ++ [']'])) = some (indexes.map Text.ofInt) := by
    induction indexes
    case nil => rfl
    case cons i indexes hi =>
      simp only [List.flatMap_cons, List.cons_append, List.append_assoc, List.nil_append]
      rw [PathPart.indexesFrom_index, hi]
      rfl
  have ⟨ht, hd⟩ : s.written.takeWhile Source.isNameChar = s.name ∧ s.written.dropWhile Source.isNameChar =
      s.indexes.flatMap fun i => '[' :: (Text.ofInt i ++ [']']) := by
    have hb : Source.isNameChar '[' = false := by decide
    rw [written, List.takeWhile_append_of_pos h.right, List.dropWhile_append_of_pos h.right]
    cases s.indexes <;> simp [hb]
  rw [PathPart.ofText?, hs, ht, hd, hi]
  simp [h.left]

end PathStep

theorem natAbs_le_of_position? {count k : Nat} {i : Int} (h : position? count i = some k) : i.natAbs ≤ count := by
  simp only [position?] at h
  split at h <;> split at h <;> first | contradiction | omega

namespace Node

-- Every position in the arrays of a node is a number that can be written.
def Indexable (root : Node) : Prop :=
  ∀ count element, root.Within (array count element) → count < 10 ^ maxDigits

end Node

namespace Place

variable {root : Node} {p : Place}

-- The node of a place and how far it lies from its first occurrence, which is all that a path finds of it.
def located (p : Place) : Node.Located :=
  (p.node, p.shift)

-- What has been found by a path is the place that keys have led to, unless both have failed.
def SamePlace (x : Except PathFault Node.Located) (y : Except AccessFault Place) : Prop :=
  x.toOption = y.toOption.map located

theorem SamePlace.bind {x : Except PathFault Node.Located} {y : Except AccessFault Place}
    {f : Node.Located → Except PathFault Node.Located} {g : Place → Except AccessFault Place} (h : SamePlace x y)
    (hf : ∀ q, y = .ok q → SamePlace (f q.located) (g q)) : SamePlace (x >>= f) (y >>= g) := by
  rw [SamePlace, toOption_bind, toOption_bind, h]
  cases y
  case error => rfl
  case ok q => exact hf q rfl

-- Indexes that are read lead to the same element as the ones that were written.
theorem atIndexes_same (hc : root.Indexable) (hp : p.OccursIn root) (part : Text) (indexes : List Int) :
    SamePlace (Node.atIndexes part p.located (indexes.map Text.ofInt)) (p.locate (indexes.map .int)) := by
  induction indexes generalizing p
  case nil => rfl
  case cons i indexes hi =>
    have ⟨node, shift, path⟩ := p
    rw [List.map_cons, List.map_cons, locate_cons]
    cases node
    case array count element =>
      simp only [located, Node.atIndexes, resolve]
      cases hk : position? count i
      case none =>
        rcases PathPart.indexValue_ofInt_cases i with h | ⟨e, h⟩ <;> rw [h]
        case inl =>
          simp only [Except.mapError, ok_bind, hk]
          rfl
        case inr => rfl
      case some k =>
        have hb : i.natAbs < 10 ^ maxDigits :=
          Nat.lt_of_le_of_lt (natAbs_le_of_position? hk) (hc _ _ hp.within)
        have hq : (Place.element ⟨.array count element, shift, path⟩ element k).OccursIn root :=
          Node.Occurs.element hp (position?_lt hk)
        rw [PathPart.indexValue_ofInt hb]
        simp only [Except.mapError, ok_bind, hk]
        exact hi hq
    all_goals rfl

-- Parts that are read lead to the same node as the steps that were written.
theorem follow_same (hc : root.Indexable) (hp : p.OccursIn root) (path : Text) {steps : List PathStep}
    (hs : ∀ s ∈ steps, s.IsProper) :
    SamePlace (Node.follow path p.located (steps.map PathStep.written)) (p.locate (steps.flatMap PathStep.keys)) := by
  induction steps generalizing p
  case nil => rfl
  case cons s steps hi =>
    have ⟨hs, hss⟩ := List.forall_mem_cons.mp hs
    have ⟨node, shift, path⟩ := p
    rw [List.map_cons, List.flatMap_cons, PathStep.keys, List.cons_append, locate_cons]
    simp only [located, Node.follow, PathStep.ofText?_written hs]
    cases node
    case group item length members =>
      simp only [Node.isGroup, resolve]
      cases hl : (Node.group item length members).lookup? (normalizeName s.name)
      case none => rfl
      case some n =>
        have hq : (Place.member ⟨.group item length members, shift, path⟩ (normalizeName s.name) n).OccursIn root :=
          Node.Occurs.lookup? hp hl
        simp only [ok_bind, locate_append]
        exact (atIndexes_same hc hq s.written s.indexes).bind fun q hr => hi (hq.locate hr) hss
    all_goals rfl

end Place

namespace Layout

variable {layout : Layout} {codec : Codec} {notices : List Notice} {statements : List Text}

theorem count_of_ofStatements {count : Nat} {element : Node}
    (h : (ofStatements statements codec).result = (.ok layout, notices))
    (hw : layout.root.Within (.array count element)) : 0 < count ∧ count < 10 ^ maxDigits := by
  have ⟨declarations, _, hd, hl⟩ := (Noting.yields_result h).bind
  have ⟨hread, hm⟩ := hd.lift
  subst hm
  have ⟨he, _, _⟩ := ofDeclarations_cases hl
  rcases (IsCompiled.ofStatements h).within_declares hw with hw | ⟨d, hm, _, hc⟩
  · contradiction
  · exact Source.occurs_of_declarations (mapError_eq_ok_iff.mp hread) (he ▸ hm) (hc count rfl)

theorem indexable_of_ofStatements (h : (ofStatements statements codec).result = (.ok layout, notices)) :
    layout.root.Indexable :=
  fun _ _ hw => (count_of_ofStatements h hw).right

-- A path finds a node, and where it is, exactly if its names and indexes lead there.
theorem find_eq_ok_iff (hc : layout.root.Indexable) {steps : List PathStep} (hn : steps ≠ [])
    (hs : ∀ s ∈ steps, s.IsProper) {n : Node} {start : Nat} :
    layout.find (PathStep.path steps) = .ok (n, start) ↔
      ∃ p, (Place.root layout).locate (steps.flatMap PathStep.keys) = .ok p ∧ p.node = n ∧
        p.node.offset + p.shift = start := by
  have hsplit : Text.splitOn '.' (PathStep.path steps) = steps.map PathStep.written :=
    Text.splitOn_join (by simpa using hn) fun t ht =>
      have ⟨s, hm, ht⟩ := List.mem_map.mp ht
      fun hdot => (PathStep.toNat_of_mem_written (hs s hm) (ht ▸ hdot)).right.right rfl
  have h := Place.follow_same hc (Place.root_occursIn layout) (PathStep.path steps) hs
  rw [find, hsplit]
  rw [Place.SamePlace] at h
  cases hl : (Place.root layout).locate (steps.flatMap PathStep.keys) <;> rw [hl] at h
  case error =>
    cases hf : Node.follow (PathStep.path steps) (layout.root, 0) (steps.map PathStep.written)
    case error => exact ⟨nofun, nofun⟩
    case ok => exact nomatch (congrArg Except.toOption hf).symm.trans h
  case ok p =>
    have hf := toOption_eq_some_iff.mp h
    rw [show (layout.root, 0) = (Place.root layout).located from rfl, hf]
    refine ⟨fun he => ?_, fun ⟨q, hq, hn, ho⟩ => ?_⟩
    · cases he
      exact ⟨p, rfl, rfl, rfl⟩
    · cases hq
      exact hn ▸ ho ▸ rfl

end Layout
end Copybook
