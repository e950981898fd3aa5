import Copybook.Export
import Copybook.Proofs.Except
import Copybook.Proofs.Session.Plain
import Copybook.Proofs.Text.Lines

/-!
Values as lines of JSON. What is written of a value without floating-point numbers stands on one line, so the lines that
are written of values are as many as these.
-/

namespace Copybook

namespace Text

variable {s t : Text}

-- No control character is in the text, and so no end of a line.
def Unbroken (s : Text) : Prop :=
  ∀ c ∈ s, 32 ≤ c.toNat

instance : Decidable (Unbroken s) :=
  decidable_of_iff (s.all fun c => 32 ≤ c.toNat) (by simp [Unbroken])

theorem Unbroken.newline (h : Unbroken s) : '\n' ∉ s :=
  fun hn => absurd (h _ hn) (by decide)

theorem unbroken_append : Unbroken (s ++ t) ↔ Unbroken s ∧ Unbroken t :=
  List.forall_mem_append

theorem unbroken_cons {c : Char} : Unbroken (c :: s) ↔ 32 ≤ c.toNat ∧ Unbroken s :=
  List.forall_mem_cons

theorem unbroken_nil : Unbroken [] :=
  List.forall_mem_nil _

theorem unbroken_join {separator : Text} {texts : List Text} (hs : Unbroken separator)
    (h : ∀ s ∈ texts, Unbroken s) : Unbroken (join separator texts) := by
  fun_induction join separator texts
  case case1 => exact unbroken_nil
  case case2 s => exact h s (by simp)
  case case3 s t rest hi =>
    obtain ⟨hh, ht⟩ := List.forall_mem_cons.mp h
    exact unbroken_append.mpr ⟨unbroken_append.mpr ⟨hh, hs⟩, hi ht⟩

theorem unbroken_ofNat (n : Nat) : Unbroken (ofNat n) := by
  intro c hc
  have hd := Nat.isDigit_of_mem_toDigits (by decide) (by decide) hc
  simp only [Char.isDigit, Bool.and_eq_true, decide_eq_true_eq] at hd
  exact le_trans (by decide : 32 ≤ '0'.toNat) hd.left

theorem unbroken_ofInt (i : Int) : Unbroken (ofInt i) := by
  unfold ofInt
  split
  · exact unbroken_cons.mpr ⟨by decide, unbroken_ofNat _⟩
  · exact unbroken_ofNat _

end Text

theorem Bytes.unbroken_hexDigits (width n : Nat) : Text.Unbroken (hexDigits width n) := by
  have hd : ∀ k < 16, 32 ≤ (Nat.digitChar k).toNat := by decide
  induction width generalizing n
  case zero => exact Text.unbroken_nil
  case succ width hi =>
    refine Text.unbroken_append.mpr ⟨hi _, Text.unbroken_cons.mpr ⟨?_, Text.unbroken_nil⟩⟩
    exact hd _ (Nat.mod_lt _ (by decide))

namespace Json

open Text

variable {style : Style} {depth : Nat}

theorem unbroken_escapeChar (c : Char) : Unbroken (escapeChar c) := by
  unfold escapeChar
  iterate 7
    split
    · decide
  split
  case isTrue => exact unbroken_cons.mpr ⟨by decide, unbroken_cons.mpr ⟨by decide, Bytes.unbroken_hexDigits _ _⟩⟩
  case isFalse h => exact unbroken_cons.mpr ⟨Nat.not_lt.mp h, unbroken_nil⟩

theorem unbroken_quote (s : Text) : Unbroken (quote s) := by
  have he : Unbroken (s.flatMap escapeChar) := fun c hc =>
    have ⟨d, _, hc⟩ := List.mem_flatMap.mp hc
    unbroken_escapeChar d c hc
  exact unbroken_cons.mpr ⟨by decide, unbroken_append.mpr ⟨he, by decide⟩⟩

theorem unbroken_enclose {first last : Char} {members : List Text} (hs : style.spread = false) (hf : 32 ≤ first.toNat)
    (hl : 32 ≤ last.toNat) (hm : ∀ s ∈ members, Unbroken s) : Unbroken (style.enclose depth first last members) := by
  have hj : Unbroken (join [','] members) := unbroken_join (by decide) hm
  unfold Style.enclose
  simp only [hs, Bool.false_eq_true, if_false]
  split
  · exact unbroken_cons.mpr ⟨hf, unbroken_cons.mpr ⟨hl, unbroken_nil⟩⟩
  · simp only [List.append_nil, unbroken_append, unbroken_cons]
    exact ⟨⟨⟨hf, unbroken_nil⟩, hj⟩, hl, unbroken_nil⟩

end Json

-- No floating-point number is among the scalars of the value.
def Value.Exact (v : Value) : Prop :=
  ∀ leaf ∈ v.leaves, ∀ digits, leaf.2 ≠ .float digits

namespace Json

open Text Value

variable {style : Style}

theorem exact_of_items {k : Nat} {v : Value} {vs : List Value}
    (h : ∀ leaf ∈ itemLeaves k (v :: vs), ∀ digits, leaf.2 ≠ .float digits) :
    v.Exact ∧ ∀ leaf ∈ itemLeaves (k + 1) vs, ∀ digits, leaf.2 ≠ .float digits := by
  rw [itemLeaves, List.forall_mem_append, List.forall_mem_map] at h
  exact h

theorem exact_of_fields {name : Text} {v : Value} {fields : List (Text × Value)}
    (h : ∀ leaf ∈ fieldLeaves ((name, v) :: fields), ∀ digits, leaf.2 ≠ .float digits) :
    v.Exact ∧ ∀ leaf ∈ fieldLeaves fields, ∀ digits, leaf.2 ≠ .float digits := by
  rw [fieldLeaves, List.forall_mem_append, List.forall_mem_map] at h
  exact h

mutual

theorem unbroken_writeAt (hs : style.spread = false) (depth : Nat) (v : Value) (hv : v.Exact) {s : Text}
    (h : writeAt style depth v = some s) : Unbroken s := by
  cases v <;> simp only [writeAt] at h
  case null =>
    cases h
    decide
  case bool b =>
    cases h
    cases b <;> decide
  case int i =>
    split at h <;> cases h
    exact unbroken_ofInt i
  case float digits => exact absurd rfl (hv _ (List.mem_singleton_self _) digits)
  case decimal | text | bytes | time =>
    cases h
    exact unbroken_quote _
  case list items =>
    split at h
    case isFalse => contradiction
    case isTrue =>
      have ⟨members, hm, he⟩ := Option.map_eq_some_iff.mp h
      exact he ▸ unbroken_enclose hs (by decide) (by decide) (unbroken_writeItems hs _ 0 items hv hm)
  case record fields =>
    split at h
    case isFalse => contradiction
    case isTrue =>
      have ⟨members, hm, he⟩ := Option.map_eq_some_iff.mp h
      exact he ▸ unbroken_enclose hs (by decide) (by decide) (unbroken_writeFields hs _ fields hv hm)
  case ellipsis => contradiction

theorem unbroken_writeItems (hs : style.spread = false) (depth k : Nat) (items : List Value)
    (hv : ∀ leaf ∈ itemLeaves k items, ∀ digits, leaf.2 ≠ .float digits) {members : List Text}
    (h : writeItems style depth items = some members) : ∀ s ∈ members, Unbroken s := by
  cases items <;> simp only [writeItems] at h
  case nil =>
    cases h
    exact nofun
  case cons v vs =>
    have ⟨s, hw, h⟩ := Option.bind_eq_some_iff.mp h
    have ⟨ss, hws, h⟩ := Option.bind_eq_some_iff.mp h
    cases h
    obtain ⟨hv, hvs⟩ := exact_of_items hv
    exact List.forall_mem_cons.mpr ⟨unbroken_writeAt hs depth v hv hw, unbroken_writeItems hs depth _ vs hvs hws⟩

theorem unbroken_writeFields (hs : style.spread = false) (depth : Nat) (fields : List (Text × Value))
    (hv : ∀ leaf ∈ fieldLeaves fields, ∀ digits, leaf.2 ≠ .float digits) {members : List Text}
    (h : writeFields style depth fields = some members) : ∀ s ∈ members, Unbroken s := by
  cases fields <;> simp only [writeFields] at h
  case nil =>
    cases h
    exact nofun
  case cons field fields =>
    have ⟨s, hw, h⟩ := Option.bind_eq_some_iff.mp h
    have ⟨ss, hws, h⟩ := Option.bind_eq_some_iff.mp h
    cases h
    obtain ⟨hv, hvs⟩ := exact_of_fields hv
    have hc : Unbroken style.colon := by
      rw [Style.colon, hs]
      decide
    refine List.forall_mem_cons.mpr ⟨?_, unbroken_writeFields hs depth fields hvs hws⟩
    exact unbroken_append.mpr ⟨unbroken_append.mpr ⟨unbroken_quote _, hc⟩, unbroken_writeAt hs depth field.2 hv hw⟩

end

end Json

namespace Layout

variable {layout : Layout} {buffer : Bytes} {v : Value}

-- The scalars of a record are texts and numbers.
theorem leaf_cases (h : layout.value buffer = .ok v) {leaf : List Key × Value} (hl : leaf ∈ v.leaves) :
    (∃ s, leaf.2 = .text s) ∨ (∃ i, leaf.2 = .int i) ∨ ∃ d, leaf.2 = .decimal d := by
  obtain ⟨i, hi, rfl⟩ := List.getElem_of_mem hl
  have hp := Place.leaves_of_plain h
  have ⟨_, hr⟩ := hp.get hi (hp.length_eq ▸ hi)
  have ⟨_, _, hd⟩ := bind_eq_ok_iff.mp hr
  exact FieldType.decode_cases (mapError_eq_ok_iff.mp hd)

-- No field of a record holds a floating-point number.
theorem exact_of_value (h : layout.value buffer = .ok v) : v.Exact := by
  intro leaf hl digits he
  rcases leaf_cases h hl with ⟨_, hv⟩ | ⟨_, hv⟩ | ⟨_, hv⟩ <;> cases he.symm.trans hv

end Layout

namespace Export

-- The lines of values are what is written of them, one by one.
theorem lines_eq_ok_iff {vs : List Value} {s : Text} : lines vs = .ok s ↔
    ∃ texts, List.Forall₂ (fun v t => Json.write .compact v = some t) vs texts ∧ s = Text.unlines texts := by
  induction vs generalizing s
  case nil => simp [lines, Text.unlines, eq_comm]
  case cons v vs hi =>
    simp only [lines, bind_eq_ok_iff, List.forall₂_cons_left_iff]
    constructor
    · rintro ⟨t, hv, ts, hvs, he⟩
      unfold line at hv
      split at hv <;> cases hv
      case _ t hw =>
        obtain ⟨texts, ht, rfl⟩ := hi.mp hvs
        exact ⟨t :: texts, ⟨t, texts, hw, ht, rfl⟩, (Except.ok.inj he).symm⟩
    · rintro ⟨_, ⟨t, texts, hw, ht, rfl⟩, rfl⟩
      exact ⟨t ++ ['\n'], by rw [line, hw], _, hi.mpr ⟨texts, ht, rfl⟩, rfl⟩

end Export
end Copybook
