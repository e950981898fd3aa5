import Mathlib
import Copybook.Proofs.Field.Binary
import Copybook.Proofs.Field.Number
import Copybook.Proofs.Field.Packed
import Copybook.Proofs.Field.Zoned

/-!
Numbers come back from the bytes of a field as they were written, in every storage form.
-/

namespace Copybook

namespace FieldType

open Text

variable {codec : Codec} {page : CodePage} {storage : Storage} {shape : NumberShape} {n : Int}

theorem encodeStored_round_trip (hc : codec.Plain) (hp : CodePage.ofName? codec.page = some page)
    (hu : page ≠ .utf16) (hs : 0 < shape.digits) (hn : n.natAbs < 10 ^ shape.digits) (hg : 0 ≤ n ∨ shape.signed)
    (hl : storage = .binary ∨ isWritable codec.digitLimit n.natAbs) :
    ∃ b, encodeStored codec shape n storage = .ok b ∧ b.length = storage.length shape.digits ∧
      decodeStored codec shape b storage = .ok n := by
  cases storage
  case zoned =>
    have hl := hl.resolve_left nofun
    exact Zoned.encode_round_trip hc hp hu hs hn hg hl
  case packed =>
    have hl := hl.resolve_left nofun
    exact Packed.encode_round_trip hn hl
  case binary =>
    have ⟨b, hb, hw, hd⟩ := encodeBinary_round_trip hn hg
    exact ⟨b, hb, hw, congrArg _ hd⟩

-- Any form of a number that fits the field is written in the bytes that the field has, and read back as that
-- number. The one exception is a number of more than a million digits: it is never written.
theorem number_round_trip {v : Value} {d : Decimal} (hc : codec.Plain)
    (hp : CodePage.ofName? codec.page = some page) (hu : page ≠ .utf16) (hs : 0 < shape.digits)
    (hn : n.natAbs < 10 ^ shape.digits) (hg : 0 ≤ n ∨ shape.signed)
    (hl : storage = .binary ∨ isWritable codec.digitLimit n.natAbs) (hv : NumberShape.number v = .ok d)
    (hf : d.isFinite) (hd : d.toRat = n / 10 ^ shape.fracDigits) :
    if digitCount n.natAbs ≤ 1000000 then
      ∃ b, encode (.number storage shape) codec v = .ok b ∧ b.length = (number storage shape).length ∧
        decode (.number storage shape) codec b =
          .ok (if shape.fracDigits = 0 then .int n
            else .decimal (.finite (decide (n < 0)) n.natAbs (-shape.fracDigits)))
    else encode (.number storage shape) codec v = .error (.arithmetic .overflow) := by
  split
  case isTrue h =>
    have hv := NumberShape.stored_exact hs hn hg h hv hf hd
    have ⟨b, hb, hw, hd⟩ := encodeStored_round_trip hc hp hu hs hn hg hl
    refine ⟨b, ?_, hw, ?_⟩
    · simp only [encode, hv, bind, Except.bind, hb]
    · simp only [decode, hd, bind, Except.bind]
      exact NumberShape.value_exact hs hn h
  case isFalse h =>
    have hv := NumberShape.stored_overflow (by omega) hv hf hd
    simp only [encode, hv, bind, Except.bind]

theorem packed_round_trip :
    ∃ b, encode (.number .packed ⟨3, 2, true⟩) {} (.decimal (.finite true 12345 (-2))) = .ok b ∧ b.length = 3 ∧
      decode (.number .packed ⟨3, 2, true⟩) {} b = .ok (.decimal (.finite true 12345 (-2))) :=
  @number_round_trip {} .cp037 .packed ⟨3, 2, true⟩ (-12345) (.decimal (.finite true 12345 (-2)))
    (.finite true 12345 (-2)) ⟨rfl, rfl⟩ (by cbv) nofun (by decide) (by decide) (.inr rfl) (.inr (by decide +kernel))
    rfl rfl (by norm_num [Decimal.toRat])

-- A picture may have room for one digit more than a million, but a power of ten with so many is refused.
theorem not_every_number_written :
    ¬∀ (shape : NumberShape) (n : Int) (d : Decimal), 0 < shape.digits → n.natAbs < 10 ^ shape.digits → 0 ≤ n →
      d.isFinite → d.toRat = n / 10 ^ shape.fracDigits →
      ∃ b, encode (.number .binary shape) { digitLimit := none } (.decimal d) = .ok b := by
  intro h
  have fits (k : Nat) : ((10 : Int) ^ k).natAbs < 10 ^ (k + 1 + 0) := by
    rw [Int.natAbs_pow]
    exact Nat.pow_lt_pow_right (by decide) (by omega)
  have value (k : Nat) : (Decimal.finite false 1 k).toRat = ((10 ^ k : Int) : ℚ) / 10 ^ 0 := by
    simp [Decimal.toRat]
  obtain ⟨b, hb⟩ := h ⟨1000000 + 1, 0, false⟩ (10 ^ 1000000) (.finite false 1 1000000) (by decide) (fits 1000000)
    (Int.pow_nonneg (by decide)) rfl (value 1000000)
  have ho : encode (.number .binary ⟨1000000 + 1, 0, false⟩) { digitLimit := none }
      (.decimal (.finite false 1 1000000)) = .error (.arithmetic .overflow) := rfl
  cases ho.symm.trans hb

end FieldType
end Copybook
