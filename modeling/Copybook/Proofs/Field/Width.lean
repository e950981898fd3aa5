import Mathlib
import Copybook.Proofs.Except
import Copybook.Proofs.Field.Binary
import Copybook.Proofs.Field.Packed
import Copybook.Proofs.Field.Zoned

/-!
How many bytes the encoding of a value takes: those that the field has, except where a character takes two bytes
and in zoned fields without digits.
-/

namespace Copybook

namespace NumberShape

variable {shape : NumberShape} {v : Value} {n : Int}

-- Only a number that fits the picture is stored.
theorem fits_of_stored (h : shape.stored v = .ok n) : n.natAbs < 10 ^ shape.digits ∧ (0 ≤ n ∨ shape.signed) := by
  unfold stored at h
  split at h
  case _ =>
    cases h
    exact ⟨Nat.pow_pos (by decide), .inl <| Int.le_refl 0⟩
  case _ =>
    have ⟨d, _, h⟩ := bind_eq_ok_iff.mp h
    have ⟨_, h⟩ := check_eq_ok_iff.mp h
    have ⟨m, _, h⟩ := bind_eq_ok_iff.mp h
    have ⟨hg, h⟩ := check_eq_ok_iff.mp h
    have ⟨hn, h⟩ := check_eq_ok_iff.mp h
    cases h
    refine ⟨by omega, ?_⟩
    by_cases hs : shape.signed
    case pos => exact .inr hs
    case neg => exact .inl <| by simpa [hs] using hg

end NumberShape

namespace CodePage

variable {page : CodePage} {s : Text} {b : Bytes}

theorem utf16_encode? (s : Text) : utf16.encode? s = some (Utf16.encode s) := by
  have h : s.mapM utf16.encodeChar? = some (s.map Utf16.encodeChar) := List.mapM_pure
  rw [encode?, h, Option.map_some, Utf16.encode, List.flatMap]

theorem length_utf16_encode (hs : ∀ c ∈ s, c.toNat < 0x10000) : (Utf16.encode s).length = 2 * s.length := by
  induction s
  case nil => rfl
  case cons c s hi =>
    have hc := hs c (by simp)
    have hi := hi fun x hx => hs x (by simp [hx])
    rw [Utf16.encode, List.flatMap_cons, List.length_append, ←Utf16.encode, hi, Utf16.encodeChar]
    simp only [if_pos hc, Utf16.unitBytes, List.length_cons, List.length_nil]
    omega

-- A text of numeric characters has one byte for each, or two.
theorem length_encode?_numeric (hs : ∀ c ∈ s, c ∈ numeric) (h : page.encode? s = some b) :
    b.length = if page = .utf16 then 2 * s.length else s.length := by
  by_cases hp : page = .utf16
  case pos =>
    subst hp
    cases (utf16_encode? s).symm.trans h
    rw [if_pos rfl]
    exact length_utf16_encode fun c hc => by
      have := toNat_lt_of_mem_numeric (hs c hc)
      omega
  case neg =>
    have ⟨b', hb, hl, _⟩ := encode?_of_narrow fun c hc => narrow_of_mem_numeric hp (hs c hc)
    cases hb.symm.trans h
    rw [if_neg hp, hl]

end CodePage

namespace Zoned

open Text

variable {codec : Codec} {shape : NumberShape} {n : Int} {t : Text}

-- The text of a zoned number has the digits of the field, or one if the field has none.
theorem digits_numeric (hn : n.natAbs < 10 ^ shape.digits) (h : digits codec shape n = .ok t) :
    t.length = max 1 shape.digits ∧ ∀ c ∈ t, c ∈ CodePage.numeric := by
  have ⟨width, hw⟩ : ∃ width, max 1 shape.digits = width + 1 := ⟨max 1 shape.digits - 1, by omega⟩
  have ⟨_, hl, _⟩ := bind_eq_ok_iff.mp h
  have hl := (writeNat_eq_ok_iff.mp <| mapError_eq_ok_iff.mp hl).left
  cases (digits_eq hw hn hl).symm.trans h
  exact ⟨by simp [hw], fun _ => mem_numeric⟩

-- A zoned number has the bytes of its field if it has a digit and its digits have a byte each.
theorem length_encode_iff {page : CodePage} {b : Bytes} (hc : codec.Plain)
    (hp : CodePage.ofName? codec.page = some page) (hn : n.natAbs < 10 ^ shape.digits)
    (h : encode codec shape n = .ok b) : b.length = shape.digits ↔ page ≠ .utf16 ∧ 0 < shape.digits := by
  have ⟨t, ht, h⟩ := bind_eq_ok_iff.mp h
  have ⟨hl, hm⟩ := digits_numeric hn ht
  rw [CodePage.length_encode?_numeric hm ((Codec.encode_eq_ok_iff hc hp).mp h), hl]
  by_cases hu : page = .utf16
  case pos =>
    simp only [hu, if_true, ne_eq, not_true_eq_false, false_and, iff_false]
    omega
  case neg =>
    simp only [hu, if_false, ne_eq, not_false_eq_true, true_and]
    omega

end Zoned

namespace FieldType

variable {codec : Codec} {page : CodePage} {type : FieldType} {v : Value} {b : Bytes}

-- Whether the encoding of a value takes the bytes of a field, no fewer and no more.
def Fits (page : CodePage) (v : Value) : FieldType → Prop
  | text length _ => page = .utf16 → (Utf16.encode (written v)).length = length
  | number .zoned shape => page ≠ .utf16 ∧ 0 < shape.digits
  | number _ _ => True

theorem length_encodeText {length : Nat} {s : Text} (h : encodeText codec length s = .ok b) :
    ∃ raw blank, codec.encode s = .ok raw ∧ codec.encode [' '] = .ok blank ∧ raw.length ≤ length ∧
      b.length = raw.length + (length - raw.length) * blank.length := by
  have ⟨raw, hr, h⟩ := bind_eq_ok_iff.mp h
  have ⟨hl, h⟩ := check_eq_ok_iff.mp h
  have ⟨blank, hb, h⟩ := bind_eq_ok_iff.mp h
  cases h
  refine ⟨raw, blank, hr, hb, by omega, ?_⟩
  simp

theorem length_text_iff {length : Nat} {s : Text} (hc : codec.Plain)
    (hp : CodePage.ofName? codec.page = some page) (h : encodeText codec length s = .ok b) :
    b.length = length ↔ (page = .utf16 → (Utf16.encode s).length = length) := by
  have ⟨raw, blank, hr, hb, hle, hl⟩ := length_encodeText h
  have hr := (Codec.encode_eq_ok_iff hc hp).mp hr
  have hm : ∀ c ∈ [' '], c ∈ CodePage.numeric := by simpa using CodePage.blank_mem_numeric
  have hb := CodePage.length_encode?_numeric hm <| (Codec.encode_eq_ok_iff hc hp).mp hb
  rw [hl, hb]
  by_cases hu : page = .utf16
  case pos =>
    subst hu
    cases (CodePage.utf16_encode? s).symm.trans hr
    simp
    omega
  case neg =>
    simp [hu]
    omega

theorem length_encode_iff (hc : codec.Plain) (hp : CodePage.ofName? codec.page = some page)
    (h : type.encode codec v = .ok b) : b.length = type.length ↔ type.Fits page v := by
  cases type <;> simp only [encode] at h
  case text length edited =>
    split at h
    case isTrue => exact length_text_iff hc hp h
    case isFalse => contradiction
  case number storage shape =>
    have ⟨n, hn, h⟩ := bind_eq_ok_iff.mp h
    have ⟨hn, hg⟩ := NumberShape.fits_of_stored hn
    cases storage
    case zoned => exact Zoned.length_encode_iff hc hp hn h
    case packed =>
      have ⟨_, hw, _⟩ := bind_eq_ok_iff.mp h
      have hw := (Text.writeNat_eq_ok_iff.mp <| mapError_eq_ok_iff.mp hw).left
      have ⟨_, hb, hl, _⟩ := Packed.encode_round_trip hn hw
      cases hb.symm.trans h
      exact ⟨fun _ => trivial, fun _ => hl⟩
    case binary =>
      have ⟨_, hb, hl, _⟩ := encodeBinary_round_trip hn hg
      cases hb.symm.trans h
      exact ⟨fun _ => trivial, fun _ => hl⟩

-- Whether a number has a digit.
def HasDigits : FieldType → Prop
  | text .. => True
  | number _ shape => 0 < shape.digits

theorem fits_of_hasDigits (hu : page ≠ .utf16) (hd : type.HasDigits) (v : Value) : type.Fits page v := by
  cases type
  case text => exact fun h => absurd h hu
  case number storage shape =>
    cases storage
    case zoned => exact ⟨hu, hd⟩
    all_goals trivial

-- In a code page with a byte for each digit every encoded value has the bytes of its field.
theorem length_encode (hc : codec.Plain) (hp : CodePage.ofName? codec.page = some page) (hu : page ≠ .utf16)
    (hd : type.HasDigits) (h : type.encode codec v = .ok b) : b.length = type.length :=
  (length_encode_iff hc hp h).mpr <| fits_of_hasDigits hu hd v

end FieldType
end Copybook
