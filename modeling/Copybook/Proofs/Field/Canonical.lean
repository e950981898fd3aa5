import Copybook.Proofs.Field.RoundTrip
import Copybook.Proofs.Field.Text
import Copybook.Proofs.Field.Width

/-!
Reading is lenient, and the bytes of a field may hold a value in many forms. The one form that is written is read as
the same value as all others.
-/

namespace Copybook

open Text (digitCount)

namespace Zoned

theorem lt_of_idxOf? {digits : List Char} {c : Char} {d : Nat} (hl : digits.length = 10)
    (h : digits.idxOf? c = some d) : d < 10 := by
  have ⟨hd, _⟩ := List.idxOf?_eq_some_iff.mp h
  omega

-- What a place of a number stands for is a digit at most.
theorem mark_lt {atEnd : Bool} {c : Char} {byte : UInt8} {m : Mark} {d : Nat} (h : mark atEnd c byte = .ok m)
    (hm : m = .digit d ∨ m = .negativeDigit d) : d < 10 := by
  unfold mark at h
  split at h
  case h_1 hi =>
    rcases hm with rfl | rfl <;> cases h
    exact lt_of_idxOf? rfl hi
  case h_2 hi =>
    rcases hm with rfl | rfl <;> cases h
    exact lt_of_idxOf? rfl hi
  case h_3 hi =>
    rcases hm with rfl | rfl <;> cases h
    exact lt_of_idxOf? rfl hi
  case h_4 =>
    split at h
    case isTrue => rcases hm with rfl | rfl <;> cases h
    case isFalse =>
      split at h
      case isTrue =>
        rcases hm with rfl | rfl <;> cases h
        decide
      case isFalse =>
        simp only at h
        split at h
        case isTrue hd =>
          rcases hm with rfl | rfl <;> cases h
          omega
        case isFalse => contradiction

theorem readFrom_lt {last position n m : Nat} {negative negative' : Bool} {places : List (Char × UInt8)}
    (h : readFrom last position negative n places = .ok (negative', m)) : m < (n + 1) * 10 ^ places.length := by
  induction places generalizing position negative n
  case nil =>
    cases h
    simp
  case cons place places hi =>
    have ⟨c, byte⟩ := place
    have ⟨k, hk, h⟩ := bind_eq_ok_iff.mp h
    have grow {a : Nat} (ha : a < (n + 1) * 10) (h : m < (a + 1) * 10 ^ places.length) :
        m < (n + 1) * 10 ^ (place :: places).length := by
      rw [List.length_cons, Nat.pow_succ', ←Nat.mul_assoc]
      exact Nat.lt_of_lt_of_le h <| Nat.mul_le_mul_right _ ha
    cases k
    case digit d =>
      have := mark_lt hk (.inl rfl)
      exact grow (by omega) (hi h)
    case negativeDigit d =>
      have := mark_lt hk (.inr rfl)
      exact grow (by omega) (hi h)
    case sign => exact grow (by omega) (hi h)

theorem decode_lt {codec : Codec} {b : Bytes} {n : Int} (h : decode codec b = .ok n) :
    n.natAbs < 10 ^ b.length := by
  have ⟨s, _, h⟩ := bind_eq_ok_iff.mp h
  have ⟨(negative, m), hr, h⟩ := bind_eq_ok_iff.mp h
  have hm : m < 10 ^ b.length := by
    refine Nat.lt_of_lt_of_le (readFrom_lt hr) ?_
    rw [Nat.zero_add, Nat.one_mul, List.length_zip]
    exact Nat.pow_le_pow_right (by decide) (Nat.min_le_right ..)
  simp only [pure, Except.pure, Except.ok.injEq] at h
  subst h
  split <;> omega

end Zoned

namespace Packed

theorem length_halves : (b : Bytes) → (halves b).length = 2 * b.length - 1
  | [] => rfl
  | [_] => rfl
  | _ :: byte :: rest => by
    simp only [halves, List.length_cons, length_halves (byte :: rest)]
    omega

theorem readFrom_lt {n m : Nat} {hs : List (UInt8 × Nat)} (h : readFrom n hs = .ok m) :
    m < (n + 1) * 10 ^ hs.length := by
  induction hs generalizing n
  case nil =>
    cases h
    simp
  case cons half hs hi =>
    have ⟨byte, half⟩ := half
    rw [readFrom] at h
    split at h
    case isFalse => contradiction
    case isTrue =>
      rw [List.length_cons, Nat.pow_succ', ←Nat.mul_assoc]
      exact Nat.lt_of_lt_of_le (hi h) <| Nat.mul_le_mul_right _ (by omega)

theorem decode_lt {b : Bytes} {n : Int} (h : decode b = .ok n) : n.natAbs < 10 ^ (2 * b.length - 1) := by
  rw [decode] at h
  cases hr : readFrom 0 (halves b) <;> rw [hr] at h <;> cases h
  case ok m =>
    have hm := readFrom_lt hr
    rw [Nat.zero_add, Nat.one_mul, length_halves] at hm
    dsimp only
    split <;> omega

end Packed

namespace Bytes

theorem toNat_lt (b : Bytes) : toNat b < 256 ^ b.length := by
  induction b using List.reverseRecOn
  case nil => simp [toNat]
  case append_singleton b byte hi =>
    have := byte.toNat_lt
    rw [toNat_concat, List.length_append, List.length_singleton, Nat.pow_succ]
    omega

end Bytes

namespace FieldType

open NumberShape Decimal

variable {codec : Codec} {page : CodePage} {shape : NumberShape} {storage : Storage} {b b' : Bytes} {n : Int}

theorem decodeBinary_le (shape : NumberShape) (b : Bytes) : (decodeBinary shape b).natAbs ≤ 256 ^ b.length := by
  have := Bytes.toNat_lt b
  have hc : ((256 ^ b.length : Nat) : Int) = 256 ^ b.length := Int.natCast_pow 256 b.length
  unfold decodeBinary Bytes.toInt
  rw [←hc]
  split
  · split <;> omega
  · omega

-- The bytes of a binary number have room for three digits at most that its picture does not have.
theorem binary_narrow (digits : Nat) : 256 ^ Storage.binary.length digits < 10 ^ max 28 (digits + 12) := by
  have hle {k : Nat} (h : k ≤ max 28 (digits + 12)) : 10 ^ k ≤ 10 ^ max 28 (digits + 12) :=
    Nat.pow_le_pow_right (by decide) h
  simp only [Storage.length]
  split
  case isTrue => exact Nat.lt_of_lt_of_le (by decide) (hle (k := 28) (by omega))
  split
  case isTrue => exact Nat.lt_of_lt_of_le (by decide) (hle (k := 28) (by omega))
  split
  case isTrue => exact Nat.lt_of_lt_of_le (by decide) (hle (k := 28) (by omega))
  case isFalse hd =>
    have hten : 10 ^ 1 ≤ 10 ^ digits := Nat.pow_le_pow_right (by decide) (by omega)
    have hlog : 2 ^ Nat.log2 (10 ^ digits - 1) ≤ 10 ^ digits - 1 := Nat.log2_self_le (by omega)
    calc 256 ^ ((Nat.log2 (10 ^ digits - 1) + 9) / 8)
      _ = 2 ^ (8 * ((Nat.log2 (10 ^ digits - 1) + 9) / 8)) := (Nat.pow_mul 2 8 _).symm
      _ ≤ 2 ^ (Nat.log2 (10 ^ digits - 1) + 9) := Nat.pow_le_pow_right (by decide) (by omega)
      _ = 2 ^ Nat.log2 (10 ^ digits - 1) * 512 := Nat.pow_add ..
      _ < 10 ^ digits * 10 ^ 12 := by omega
      _ = 10 ^ (digits + 12) := (Nat.pow_add ..).symm
      _ ≤ 10 ^ max 28 (digits + 12) := hle (by omega)

-- Arithmetic keeps all digits of what is read from the bytes of a field.
theorem decodeStored_lt (h : decodeStored codec shape b storage = .ok n) (hl : b.length = storage.length shape.digits) :
    n.natAbs < 10 ^ shape.precision.digits := by
  have hle {k : Nat} (h : k ≤ max 28 (shape.digits + 12)) : 10 ^ k ≤ 10 ^ shape.precision.digits :=
    Nat.pow_le_pow_right (by decide) h
  cases storage
  case zoned => exact Nat.lt_of_lt_of_le (Zoned.decode_lt h) (hle (by simp only [hl, Storage.length]; omega))
  case packed => exact Nat.lt_of_lt_of_le (Packed.decode_lt h) (hle (by simp only [hl, Storage.length]; omega))
  case binary =>
    cases h
    exact Nat.lt_of_le_of_lt (hl ▸ decodeBinary_le shape b) (binary_narrow shape.digits)

-- A number is stored if it can be written, which any binary one can.
theorem writable_of_encodeStored (h : encodeStored codec shape n storage = .ok b) :
    storage = .binary ∨ Text.isWritable codec.digitLimit n.natAbs := by
  cases storage
  case zoned =>
    have ⟨_, h, _⟩ := bind_eq_ok_iff.mp h
    have ⟨_, h, _⟩ := bind_eq_ok_iff.mp h
    exact .inr (Text.writeNat_eq_ok_iff.mp <| mapError_eq_ok_iff.mp h).left
  case packed =>
    have ⟨_, h, _⟩ := bind_eq_ok_iff.mp h
    exact .inr (Text.writeNat_eq_ok_iff.mp <| mapError_eq_ok_iff.mp h).left
  case binary => exact .inl rfl

end FieldType

namespace NumberShape

open Decimal

variable {shape : NumberShape} {n m : Int}

theorem toRat_exact (n : Int) (places : Nat) :
    (finite (decide (n < 0)) n.natAbs (-places)).toRat = n / 10 ^ places := by
  have habs : (if n < 0 then (-1 : ℚ) else 1) * n.natAbs = n := by
    split
    case isTrue h => rw [Nat.cast_natAbs, abs_of_neg h]; simp
    case isFalse h => rw [Nat.cast_natAbs, abs_of_nonneg (by omega)]; simp
  simp only [toRat, decide_eq_true_eq, habs, zpow_neg, zpow_natCast, div_eq_mul_inv]

-- The value of a stored number is a number, and as many units as it was.
theorem number_exact (shape : NumberShape) (n : Int) :
    ∃ d, number (shape.exact n) = .ok d ∧ d.isFinite ∧ d.toRat = n / 10 ^ shape.fracDigits := by
  unfold exact
  split
  case isTrue hf => exact ⟨.ofInt n, rfl, rfl, by rw [hf]; exact toRat_exact n 0⟩
  case isFalse => exact ⟨_, rfl, rfl, toRat_exact n shape.fracDigits⟩

theorem digitCount_le_of_lt (h : n.natAbs < 10 ^ shape.precision.digits) :
    digitCount n.natAbs ≤ shape.precision.digits :=
  (Text.digitCount_le_iff <| by simp only [precision, Precision.ofDigits]; omega).mpr h

-- What is stored for that value is the number itself, if it is stored at all.
theorem eq_of_stored_exact (hp : digitCount n.natAbs ≤ shape.precision.digits)
    (h : shape.stored (shape.exact n) = .ok m) : m = n := by
  have ⟨d, hd, hf, hv⟩ := number_exact shape n
  by_cases hl : digitCount n.natAbs ≤ 1000000
  case pos =>
    rw [stored_of_number hd hf, units_exact hp hl hf hv] at h
    have ⟨_, h⟩ := check_eq_ok_iff.mp h
    have ⟨_, h⟩ := check_eq_ok_iff.mp h
    exact (Except.ok.inj h).symm
  case neg =>
    rw [stored_overflow (by omega) hd hf hv] at h
    contradiction

end NumberShape

namespace FieldType

variable {codec : Codec} {page : CodePage} {chars : List Char} {type : FieldType} {b b' : Bytes} {v : Value}

variable (hc : codec.Plain) (hp : CodePage.ofName? codec.page = some page) (hs : page.chars? = some chars)

include hc hp hs

theorem decode_encode_number {storage : Storage} {shape : NumberShape} (hd : 0 < shape.digits)
    (hl : b.length = storage.length shape.digits) (h : decode (.number storage shape) codec b = .ok v)
    (he : encode (.number storage shape) codec v = .ok b') : decode (.number storage shape) codec b' = .ok v := by
  have ⟨n, hn, hv⟩ := bind_eq_ok_iff.mp h
  have ⟨m, hm, he⟩ := bind_eq_ok_iff.mp he
  have hk := NumberShape.digitCount_le_of_lt (decodeStored_lt hn hl)
  have hx : v = shape.exact n := by
    rw [NumberShape.value_eq hk] at hv
    split at hv <;> cases hv
    rfl
  have hmn : m = n := NumberShape.eq_of_stored_exact hk (hx ▸ hm)
  have ⟨hlt, hg⟩ := NumberShape.fits_of_stored (hmn ▸ hm)
  have ⟨b'', hb, _, hr⟩ := encodeStored_round_trip hc hp (CodePage.ne_utf16_of_chars? hs) hd hlt hg
    (writable_of_encodeStored (hmn ▸ he))
  rw [hmn] at he
  cases hb.symm.trans he
  simp only [decode, hr, ok_bind]
  exact hv

theorem decode_encode_text {length : Nat} {edited : Bool} (hl : b.length = length)
    (h : decode (.text length edited) codec b = .ok v) (he : encode (.text length edited) codec v = .ok b') :
    decode (.text length edited) codec b' = .ok v := by
  have stored {s : Text} (he : encode (.text length edited) codec (.text s) = .ok b') :
      page.decode b' = s ++ List.replicate (length - s.length) ' ' := by
    simp only [encode, Value.isShowable, if_true] at he
    exact decode_of_encodeText hc hp hs he
  simp only [decode, decodeText_eq hc hp] at h ⊢
  cases h
  rw [stored he]
  by_cases ht : codec.trim
  case pos =>
    have htrim := Text.dropRight_append_dropRight (p := isPadding) [] (page.decode b)
    simp only [ht, if_true, dropRight_fill]
    exact congrArg (fun s => Except.ok (Value.text s)) htrim
  case neg => simp [ht, CodePage.length_decode hs, hl, Except.map]

-- What has been read from the bytes of a field and is written to it again is read as it was, whatever the bytes.
theorem decode_encode_decode (hd : type.HasDigits) (hl : b.length = type.length) (h : type.decode codec b = .ok v)
    (he : type.encode codec v = .ok b') : type.decode codec b' = .ok v := by
  cases type
  case text => exact decode_encode_text hc hp hs hl h he
  case number => exact decode_encode_number hc hp hs hd hl h he

-- It is written with as many bytes as it has been read from, and nothing is lost by that.
theorem rewritten_stable (hd : type.HasDigits) (hl : b.length = type.length) (h : type.decode codec b = .ok v)
    (he : type.encode codec v = .ok b') : b'.length = type.length ∧ type.decode codec b' = .ok v := by
  have hu := CodePage.ne_utf16_of_chars? hs
  exact ⟨length_encode hc hp hu hd he, decode_encode_decode hc hp hs hd hl h he⟩

omit hc hp hs

-- A minus and a blank before the digit are read, and an overpunch over the digit is written for them.
theorem lone_minus_stable :
    decode (.number .zoned ⟨1, 2, true⟩) {} [0x60, 0x40, 0xf7] = .ok (.decimal (.finite true 7 (-2))) ∧
    encode (.number .zoned ⟨1, 2, true⟩) {} (.decimal (.finite true 7 (-2))) = .ok [0xf0, 0xf0, 0xd7] ∧
    [0xf0, 0xf0, 0xd7].length = 3 ∧
    decode (.number .zoned ⟨1, 2, true⟩) {} [0xf0, 0xf0, 0xd7] = .ok (.decimal (.finite true 7 (-2))) := by
  have hd : decode (.number .zoned ⟨1, 2, true⟩) {} [0x60, 0x40, 0xf7] = .ok (.decimal (.finite true 7 (-2))) := by
    with_unfolding_all rfl
  have he : encode (.number .zoned ⟨1, 2, true⟩) {} (.decimal (.finite true 7 (-2))) = .ok [0xf0, 0xf0, 0xd7] :=
    toOption_eq_some_iff.mp (by decide +kernel)
  have hw : HasDigits (.number .zoned ⟨1, 2, true⟩) := (by decide : 0 < 3)
  exact ⟨hd, he, @rewritten_stable {} .cp037 _ _ _ _ _ ⟨rfl, rfl⟩ (by cbv) rfl hw rfl hd he⟩

end FieldType
end Copybook
