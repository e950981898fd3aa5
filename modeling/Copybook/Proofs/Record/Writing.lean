import Copybook.Proofs.Field.Canonical
import Copybook.Proofs.Record.Shape
import Copybook.Proofs.Session.Import

/-!
Which records can be written as JSON. A record is never too deep for it, so it comes down to the whole numbers: those
that do not fit 64 bits have no JSON form.
-/

namespace Copybook

namespace Value

-- All whole numbers in the value have a JSON form.
def Narrow (v : Value) : Prop :=
  ∀ leaf ∈ v.leaves, ∀ i, leaf.2 = .int i → Json.isWritable i

-- The value is that of a record, under the layout of a copybook.
def IsRecord (v : Value) : Prop :=
  ∃ statements codec layout notices buffer,
    (Layout.ofStatements statements codec).result = (.ok layout, notices) ∧ layout.value buffer = .ok v

variable {v : Value}

theorem forall_itemLeaves {p : Value → Prop} {k : Nat} {vs : List Value} :
    (∀ leaf ∈ itemLeaves k vs, p leaf.2) ↔ ∀ v ∈ vs, ∀ leaf ∈ v.leaves, p leaf.2 := by
  induction vs generalizing k
  case nil => simp [itemLeaves]
  case cons v vs hi => rw [itemLeaves, List.forall_mem_append, List.forall_mem_map, List.forall_mem_cons, hi]; rfl

theorem IsRecord.depth_le (h : v.IsRecord) : v.depth ≤ 99 := by
  obtain ⟨_, _, _, _, _, hl, hv⟩ := h
  exact (Layout.depth_of_value hv).trans (Layout.depth_root_le hl)

theorem IsRecord.writable_iff (h : v.IsRecord) : (∀ leaf ∈ v.leaves, leaf.2.Writable) ↔ v.Narrow := by
  obtain ⟨_, _, _, _, _, -, hv⟩ := h
  refine forall₂_congr fun leaf hl => ?_
  rcases Layout.leaf_cases hv hl with ⟨_, he⟩ | ⟨_, he⟩ | ⟨_, he⟩ <;> simp [he, Writable]

end Value

namespace Json

open Value

variable {vs : List Value}

theorem write_isSome_iff (style : Style) {v : Value} (h : v.IsRecord) : (write style v).isSome ↔ v.Narrow := by
  have hd := h.depth_le
  exact (writeAt_isSome_iff (by rw [maxOpen]; omega)).trans h.writable_iff

theorem write_list_isSome_iff (style : Style) (h : ∀ v ∈ vs, v.IsRecord) :
    (write style (.list vs)).isSome ↔ ∀ v ∈ vs, v.Narrow := by
  have hd : itemsDepth vs ≤ 99 := itemsDepth_le_iff.mpr fun v hv => (h v hv).depth_le
  rw [write, writeAt_isSome_iff (by rw [Value.depth, maxOpen]; omega), leaves, forall_itemLeaves]
  exact forall₂_congr fun v hv => (h v hv).writable_iff

end Json

namespace FieldType

variable {codec : Codec} {shape : NumberShape} {storage : Storage} {b : Bytes} {n : Int}

theorem isWritable_decodeBinary (hb : b.length ≤ 8) : Json.isWritable (decodeBinary shape b) := by
  have hn := Bytes.toNat_lt b
  have hp : 256 ^ b.length ≤ 256 ^ 8 := Nat.pow_le_pow_right (by decide) hb
  have hc : ((256 ^ b.length : Nat) : Int) = 256 ^ b.length := Int.natCast_pow 256 b.length
  rw [Json.isWritable_iff, decodeBinary, Bytes.toInt, ←hc]
  split
  · split <;> omega
  · omega

-- The bytes of seventeen digits hold no number that JSON has no form for.
theorem isWritable_of_decodeStored (h : decodeStored codec shape b storage = .ok n)
    (hl : b.length = storage.length shape.digits) (hd : shape.digits ≤ 17) : Json.isWritable n := by
  have of_lt {k : Nat} (hk : k ≤ 17) (hn : n.natAbs < 10 ^ k) : Json.isWritable n := by
    have := Nat.lt_of_lt_of_le hn (Nat.pow_le_pow_right (by decide) hk)
    rw [Json.isWritable_iff]
    omega
  cases storage <;> simp only [Storage.length] at hl
  case zoned => exact of_lt (by omega) (Zoned.decode_lt h)
  case packed => exact of_lt (by omega) (Packed.decode_lt h)
  case binary =>
    cases h
    refine isWritable_decodeBinary ?_
    rw [if_pos (by omega : shape.digits ≤ 18)] at hl
    split at hl
    · omega
    · split at hl <;> omega

end FieldType

-- A whole number comes from a field without decimal places.
theorem Spot.read_int {s : Spot} {codec : Codec} {buffer : Bytes} {i : Int} (h : s.read codec buffer = .ok (.int i)) :
    ∃ storage shape, s.type = .number storage shape ∧ shape.fracDigits = 0 ∧
      ∃ b, b.length = storage.length shape.digits ∧ FieldType.decodeStored codec shape b storage = .ok i := by
  obtain ⟨b, hb, hd⟩ := bind_eq_ok_iff.mp h
  obtain ⟨hle, hb⟩ := check_eq_ok_iff.mp hb
  have hl : b.length = s.type.length := by
    rw [←Except.ok.inj hb, Bytes.slice, List.length_take, List.length_drop]
    simp only [stop] at *
    omega
  have hd := mapError_eq_ok_iff.mp hd
  cases ht : s.type <;> rw [ht] at hd hl
  case text =>
    obtain ⟨_, -, he⟩ := map_eq_ok_iff.mp hd
    contradiction
  case number storage shape =>
    obtain ⟨n, hn, hv⟩ := bind_eq_ok_iff.mp hd
    unfold NumberShape.value at hv
    split at hv
    case isTrue hf =>
      cases hv
      exact ⟨storage, shape, rfl, hf, b, hl, hn⟩
    case isFalse =>
      obtain ⟨_, -, he⟩ := map_eq_ok_iff.mp (mapError_eq_ok_iff.mp hv)
      contradiction

namespace Layout

variable {layout : Layout} {buffer : Bytes} {v : Value}

-- Where all whole numbers have seventeen digits at most, every record can be written.
theorem narrow_of_value (hs : ∀ s ∈ layout.root.exports 0 [], ∀ storage shape, s.type = .number storage shape →
    shape.fracDigits = 0 → shape.digits ≤ 17) (h : layout.value buffer = .ok v) : v.Narrow := by
  refine forall_of_forall₂ (Place.leaves_of_plain h).flip fun s hm leaf hr i he => ?_
  obtain ⟨storage, shape, ht, hf, b, hl, hd⟩ := Spot.read_int (he ▸ hr.right)
  exact FieldType.isWritable_of_decodeStored hd hl (hs s hm storage shape ht hf)

-- The layout of `01 A PIC 9(20).`
def wide : Layout where
  length := 20
  members := [.field ⟨"A".toList, 0, none, none, none⟩ (.number .zoned ⟨20, 0, false⟩)]
  declarations := [
    ⟨1, "A".toList, some "9(20)".toList, none, none, none, none, none, none, "01 A PIC 9(20)".toList⟩]
  codec := {}

theorem wide_compiled : (ofStatements ["01 A PIC 9(20)".toList] {}).result = (.ok wide, []) := by
  have hd : Source.declarations ["01 A PIC 9(20)".toList] = .ok wide.declarations := by with_unfolding_all rfl
  rw [ofStatements, hd]
  with_unfolding_all rfl

theorem wide_isRecord : (Value.record [("A".toList, .int 99999999999999999999)]).IsRecord :=
  ⟨_, _, wide, _, List.replicate 20 0xf9, wide_compiled, by with_unfolding_all rfl⟩

end Layout

namespace Export

variable {vs : List Value}

theorem lines_ok (h : ∀ v ∈ vs, (Json.write .compact v).isSome) : ∃ s, lines vs = .ok s := by
  induction vs
  case nil => exact ⟨[], rfl⟩
  case cons v vs hi =>
    obtain ⟨hv, hvs⟩ := List.forall_mem_cons.mp h
    obtain ⟨s, hs⟩ := Option.isSome_iff_exists.mp hv
    obtain ⟨t, ht⟩ := hi hvs
    exact ⟨s ++ ['\n'] ++ t, by rw [lines, line, hs, ht]; rfl⟩

-- The first value without a JSON form ends the writing of lines.
theorem lines_fault {v : Value} (hv : v ∈ vs) (h : Json.write .compact v = none) :
    lines vs = .error .notWritable := by
  induction vs
  case nil => contradiction
  case cons w vs hi =>
    rw [lines, line]
    cases hw : Json.write .compact w
    case none => rfl
    case some s =>
      rcases List.mem_cons.mp hv with rfl | hv
      · cases h.symm.trans hw
      · rw [hi hv]
        rfl

-- Records are written as JSON, as one list and line by line, exactly if all their whole numbers can be.
theorem written_iff (h : ∀ v ∈ vs, v.IsRecord) :
    ((∀ v ∈ vs, v.Narrow) → ∃ s t, json vs = .ok s ∧ lines vs = .ok t) ∧
      ((∃ v ∈ vs, ¬v.Narrow) → json vs = .error .notWritable ∧ lines vs = .error .notWritable) := by
  have hj := Json.write_list_isSome_iff .indented h
  have hl {v : Value} (hv : v ∈ vs) := Json.write_isSome_iff .compact (h v hv)
  constructor
  · intro hn
    obtain ⟨s, hs⟩ := Option.isSome_iff_exists.mp (hj.mpr hn)
    obtain ⟨t, ht⟩ := lines_ok fun v hv => (hl hv).mpr (hn v hv)
    exact ⟨s, t, by rw [json, hs], ht⟩
  · rintro ⟨v, hv, hn⟩
    have hs : Json.write .indented (.list vs) = none :=
      Option.not_isSome_iff_eq_none.mp fun hs => hn (hj.mp hs v hv)
    exact ⟨by rw [json, hs], lines_fault hv (Option.not_isSome_iff_eq_none.mp fun hs => hn ((hl hv).mp hs))⟩

-- Two digits and a number with a point can be written; a number of twenty digits cannot.
theorem lenient_written :
    let v : Value := .record [("R".toList, .record [
      ("A".toList, .list [.int 0, .int 3]), ("B".toList, .decimal (.finite false 15 (-1))),
      ("C".toList, .text "A".toList)])]
    let w : Value := .record [("A".toList, .int 99999999999999999999)]
    (∃ s t, json [v, v] = .ok s ∧ lines [v, v] = .ok t) ∧
      json [v, w] = .error .notWritable ∧ lines [v, w] = .error .notWritable := by
  intro v w
  have hv : v.IsRecord :=
    ⟨_, _, Layout.lenient, _, [0xf0, 0xf3, 0x40, 0x01, 0x5c, 0xc1, 0x40], Layout.lenient_compiled,
      by with_unfolding_all rfl⟩
  have hw : w.IsRecord := Layout.wide_isRecord
  have hn : v.Narrow := by
    simp [v, Value.Narrow, Value.leaves, Value.fieldLeaves, Value.itemLeaves, Json.isWritable]
  have hn' : ¬w.Narrow := by simp [w, Value.Narrow, Value.leaves, Value.fieldLeaves, Json.isWritable]
  have hvv : ∀ u ∈ [v, v], u.IsRecord := List.forall_mem_cons.mpr ⟨hv, List.forall_mem_singleton.mpr hv⟩
  have hvw : ∀ u ∈ [v, w], u.IsRecord := List.forall_mem_cons.mpr ⟨hv, List.forall_mem_singleton.mpr hw⟩
  exact ⟨(written_iff hvv).left (List.forall_mem_cons.mpr ⟨hn, List.forall_mem_singleton.mpr hn⟩),
    (written_iff hvw).right ⟨w, by simp, hn'⟩⟩

-- A record holds a number of any count of digits, and the JSON form of numbers ends at sixty-four bits.
theorem not_every_record_written :
    ¬∀ vs : List Value, (∀ v ∈ vs, v.IsRecord) → ∃ s t, json vs = .ok s ∧ lines vs = .ok t := by
  intro h
  obtain ⟨s, t, hs, -⟩ := h [_] (List.forall_mem_singleton.mpr Layout.wide_isRecord)
  have he : json [.record [("A".toList, .int 99999999999999999999)]] = .error .notWritable := by with_unfolding_all rfl
  cases he.symm.trans hs

end Export
end Copybook
