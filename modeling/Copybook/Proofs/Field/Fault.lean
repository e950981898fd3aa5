import Copybook.Proofs.Decimal.Range
import Copybook.Proofs.Field.Number
import Copybook.Proofs.Field.Width
import Copybook.Proofs.Record.Fault

/-!
How the encoding of a value fails. A field finds that a value does not fit or is none of its values, unless the
arithmetic or the writing of digits underneath gives up first; when that happens is said exactly.
-/

namespace Copybook

-- The two kinds of fault that a field finds with a value.
def FaultKind.isFieldFault : FaultKind → Bool
  | fieldOverflow | invalidFieldData => true
  | _ => false

theorem FaultKind.isFieldFault_iff {kind : FaultKind} :
    kind.isFieldFault ↔ kind = fieldOverflow ∨ kind = invalidFieldData := by
  cases kind <;> simp [isFieldFault]

theorem FaultKind.isCopybookFault_of_isFieldFault {kind : FaultKind} (h : kind.isFieldFault) :
    kind.isCopybookFault := by
  cases isFieldFault_iff.mp h <;> subst kind <;> rfl

-- That digits cannot be written is no fault that a field finds.
theorem FieldFault.digits_not_isFieldFault (fault : DigitFault) : ¬(digits fault).kind.isFieldFault :=
  nofun

theorem FaultKind.isFieldFault_showing {kind : FaultKind} (h : kind.isFieldFault) (v : Value) :
    (kind.showing v).isFieldFault ↔ v.isShowable := by
  unfold showing
  split
  case isTrue hv => simp [h, hv]
  case isFalse hv => simp [hv, isFieldFault]

namespace NumberShape

open Decimal Text

variable {shape : NumberShape} {v : Value} {d : Decimal} {fault : FieldFault}

-- The whole number of units that a number comes to.
def whole (shape : NumberShape) (c : Nat) (e : Int) : Nat :=
  shape.precision.whole c (e + shape.fracDigits)

-- How many digits the arithmetic has room for: twelve more than the field at least, but a million at most.
def room (shape : NumberShape) : Nat :=
  shape.precision.room

-- A value is a number that comes to more digits than there is room for.
def Exceeds (shape : NumberShape) (v : Value) : Prop :=
  ∃ negative c e, number v = .ok (.finite negative c e) ∧ 10 ^ shape.room ≤ shape.whole c e

theorem units_eq (shape : NumberShape) (negative : Bool) (c : Nat) (e : Int) :
    shape.units (.finite negative c e) =
      if shape.whole c e < 10 ^ shape.room then .ok (Text.signed negative (shape.whole c e))
      else .error (shape.precision.refusal c (e + shape.fracDigits)) :=
  toInt_scale (Precision.ofDigits_usable _) negative c e shape.fracDigits

theorem natAbs_signed (negative : Bool) (m : Nat) : (Text.signed negative m).natAbs = m := by
  cases negative <;> simp [Text.signed]

theorem number_kind (h : number v = .error fault) : fault = .notNumeric v := by
  unfold number at h
  split at h
  case h_1 | h_2 => contradiction
  case h_3 digits =>
    cases ho : ofText? digits <;> rw [ho] at h <;> cases h
    rfl
  case h_4 s =>
    split at h
    case isTrue => contradiction
    case isFalse =>
      cases ho : ofText? (strip s) <;> rw [ho] at h <;> cases h
      rfl
  case h_5 => exact (Except.error.inj h).symm

theorem exceeds_iff {negative : Bool} {c : Nat} {e : Int} (h : number v = .ok (.finite negative c e)) :
    shape.Exceeds v ↔ 10 ^ shape.room ≤ shape.whole c e := by
  refine ⟨fun ⟨_, _, _, hv, hx⟩ => ?_, fun hx => ⟨_, _, _, h, hx⟩⟩
  cases h.symm.trans hv
  exact hx

theorem isFinite_of_exceeds (h : shape.Exceeds v) : ∃ d, number v = .ok d ∧ d.isFinite :=
  have ⟨_, _, _, hv, _⟩ := h
  ⟨_, hv, rfl⟩

-- A fault that the field finds with a value: of one of its kinds, if the value can be shown.
def Finds (v : Value) (fault : FieldFault) : Prop :=
  ∃ kind : FaultKind, kind.isFieldFault ∧ fault.kind = kind.showing v

-- The arithmetic has no room for a value and gives up, or the field finds a fault with it.
def Refused (shape : NumberShape) (v : Value) (fault : FieldFault) : Prop :=
  shape.Exceeds v ∧ (∃ f, fault = .arithmetic f) ∨ ¬shape.Exceeds v ∧ Finds v fault

-- A value is stored or refused, and stored only if there is room for it.
theorem stored_ends (shape : NumberShape) (v : Value) :
    Ends (fun _ => ¬shape.Exceeds v) (shape.Refused v) (shape.stored v) := by
  unfold stored
  split
  case _ => exact fun ⟨_, _, _, hv, _⟩ => nomatch hv
  case _ =>
    refine Ends.bind (P := (number v = .ok ·)) ?_ fun d hd => ?_
    · refine (Ends.self (number v)).mono (fun _ h => h) fun fault h => .inr ⟨fun hx => ?_, ?_⟩
      · have ⟨_, hv, _⟩ := isFinite_of_exceeds hx
        cases h.symm.trans hv
      · rw [number_kind h]
        exact ⟨.invalidFieldData, rfl, rfl⟩
    · refine Ends.check (fun hf => .inr ⟨fun hx => ?_, .invalidFieldData, rfl, rfl⟩) fun hf => ?_
      · have ⟨d', hv, hf'⟩ := isFinite_of_exceeds hx
        cases hd.symm.trans hv
        simp [hf'] at hf
      · cases d <;> simp [isFinite] at hf
        case finite negative c e =>
          refine Ends.bind (P := fun _ => ¬shape.Exceeds v) ?_ fun n hx => ?_
          · rw [units_eq, exceeds_iff hd]
            split
            case isTrue h => exact Nat.not_le.mpr h
            case isFalse h => exact .inl ⟨(exceeds_iff hd).mpr (Nat.not_lt.mp h), _, rfl⟩
          · refine Ends.check (fun _ => .inr ⟨hx, .fieldOverflow, rfl, rfl⟩) fun _ => ?_
            refine Ends.check (fun _ => .inr ⟨hx, .fieldOverflow, rfl, rfl⟩) fun _ => ?_
            exact hx

theorem stored_zero (shape : NumberShape) : ¬shape.Exceeds (.int 0) ∧ shape.stored (.int 0) = .ok 0 := by
  have hz : shape.whole 0 0 = 0 := whole_zero (Precision.ofDigits_usable _) _
  have hr : 0 < 10 ^ shape.room := Nat.pow_pos (by decide)
  have hd : number (.int 0) = .ok (.finite false 0 0) := rfl
  constructor
  · rw [exceeds_iff hd, hz]
    omega
  · have hs : ¬10 ^ shape.digits ≤ (Text.signed false 0).natAbs := Nat.not_le.mpr <| Nat.pow_pos (by decide)
    rw [stored_of_number hd rfl, units_eq, hz, if_pos hr]
    exact if_neg hs

end NumberShape

-- All that an encoding that converts finds is that it lacks a character.
theorem Codec.encode_ends {codec : Codec} (hc : codec.Plain) (hv : codec.Converts) (s : Text) :
    Ends (fun _ => True) (fun fault => fault.kind.isFieldFault) (codec.encode s) := by
  obtain ⟨b, hb⟩ | hf := encode_cases hc hv s
  · rw [hb]
    trivial
  · rw [hf]
    rfl

namespace FieldType

open Text

variable {codec : Codec} {storage : Storage} {shape : NumberShape} {n : Int} {v : Value}

-- The digits of a number can be written, as those of zoned and packed fields must be.
def Writable (codec : Codec) (n : Int) (storage : Storage) : Prop :=
  storage = .binary ∨ isWritable codec.digitLimit n.natAbs

theorem writeNat_ends (codec : Codec) (n : Int) (hs : storage ≠ .binary) :
    Ends (fun _ => Writable codec n storage) (fun fault => fault.kind.isFieldFault ↔ Writable codec n storage)
      ((writeNat n.natAbs codec.digitLimit).mapError FieldFault.digits) := by
  unfold writeNat
  split
  case isTrue h => exact .inr h
  case isFalse h => exact iff_of_false (FieldFault.digits_not_isFieldFault _) fun hw => h (hw.resolve_left hs)

-- The stored form of a number that fits the field fails only if its digits cannot be written, or if its encoding
-- lacks them.
theorem encodeStored_ends (hc : codec.Plain) (hv : codec.Converts) (hn : n.natAbs < 10 ^ shape.digits)
    (hg : 0 ≤ n ∨ shape.signed) :
    Ends (fun _ => Writable codec n storage) (fun fault => fault.kind.isFieldFault ↔ Writable codec n storage)
      (encodeStored codec shape n storage) := by
  cases storage <;> rw [encodeStored]
  case zoned =>
    have hs : Storage.zoned ≠ .binary := nofun
    refine Ends.bind (P := fun _ => Writable codec n .zoned) ?_ fun t hw => ?_
    · exact (writeNat_ends codec n hs).bind fun _ hw => hw
    · exact (Codec.encode_ends hc hv t).mono (fun _ _ => hw) fun fault hf => ⟨fun _ => hw, fun _ => hf⟩
  case packed =>
    have hs : Storage.packed ≠ .binary := nofun
    exact (writeNat_ends codec n hs).bind fun _ hw => hw
  case binary =>
    have ⟨b, hb, _⟩ := encodeBinary_round_trip hn hg
    rw [hb]
    exact .inl rfl

-- The encoding of a value is stopped by a failure underneath the field: no text of a whole number of so many digits,
-- no room for a number of so many digits, or a fault of the field that cannot be told, as the value cannot be shown.
def Escapes (codec : Codec) (v : Value) : FieldType → Prop
  | text .. => ¬v.isShowable codec.digitLimit
  | number storage shape =>
    shape.Exceeds v ∨
      match shape.stored v with
      | .ok n => ¬Writable codec n storage
      | .error _ => ¬v.isShowable

-- The values that are never stopped: text for text, and zero.
theorem text_not_escapes (codec : Codec) (length : Nat) (edited : Bool) (s : Text) :
    ¬(text length edited).Escapes codec (.text s) :=
  fun h => h rfl

theorem zero_not_escapes (codec : Codec) (storage : Storage) (shape : NumberShape) :
    ¬(number storage shape).Escapes codec (.int 0) := by
  have ⟨hx, hs⟩ := NumberShape.stored_zero shape
  have hw : isWritable codec.digitLimit 0 := by
    unfold isWritable
    cases codec.digitLimit
    case none => rfl
    case some limit => exact decide_eq_true (Nat.pow_pos (by decide))
  simp only [Escapes, hs, hx, false_or, not_not]
  exact .inr hw

theorem encodeText_ends (hc : codec.Plain) (hv : codec.Converts) (length : Nat) (s : Text) :
    Ends (fun _ => True) (fun fault => fault.kind.isFieldFault) (encodeText codec length s) := by
  refine (Codec.encode_ends hc hv s).bind fun raw _ => ?_
  refine Ends.check (fun _ => rfl) fun _ => ?_
  exact (Codec.encode_ends hc hv [' ']).bind fun _ _ => trivial

-- A value is encoded, or refused with a fault of the field, exactly if no failure underneath stops it.
theorem encode_ends (hc : codec.Plain) (hv : codec.Converts) (type : FieldType) (v : Value) :
    Ends (fun _ => ¬type.Escapes codec v) (fun fault => fault.kind.isFieldFault ↔ ¬type.Escapes codec v)
      (type.encode codec v) := by
  cases type <;> simp only [encode, Escapes]
  case text length edited =>
    split
    case isTrue h =>
      refine (encodeText_ends hc hv length _).mono (fun _ _ => not_not.mpr h) fun fault hf => ?_
      exact ⟨fun _ => not_not.mpr h, fun _ => hf⟩
    case isFalse h => exact iff_of_false (FieldFault.digits_not_isFieldFault _) (not_not.mpr h)
  case number storage shape =>
    cases hs : shape.stored v
    case ok n =>
      have hx := (NumberShape.stored_ends shape v).ok hs
      obtain ⟨hn, hg⟩ := NumberShape.fits_of_stored hs
      refine (encodeStored_ends hc hv hn hg).mono (fun _ hw => ?_) fun fault hf => hf.trans ?_
      · simp [hx, hw]
      · simp [hx]
    case error fault =>
      cases (NumberShape.stored_ends shape v).error hs
      case inl h =>
        obtain ⟨hx, f, hf⟩ := h
        subst hf
        refine ⟨fun hk => ?_, fun he => absurd (.inl hx) he⟩
        cases f <;> contradiction
      case inr h =>
        obtain ⟨hx, kind, hk, hf⟩ := h
        rw [error_bind, Ends, hf, FaultKind.isFieldFault_showing hk]
        simp [hx]

end FieldType
end Copybook
