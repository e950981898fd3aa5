import Mathlib
import Copybook.Field

/-!
Binary numbers: the bytes of a number that is not too wide are read back as that number, and no number of the
digits that a field has is too wide for it.
-/

namespace Copybook

namespace Bytes

variable {width : Nat}

theorem toNat_ofNat_of_lt {n : Nat} (h : n < 256 ^ width) : toNat (ofNat width n) = n := by
  rw [toNat_ofNat, Nat.mod_eq_of_lt h]

theorem ofNat?_round_trip {n : Nat} (h : n < 256 ^ width) :
    ∃ b, ofNat? width n = some b ∧ b.length = width ∧ toNat b = n :=
  ⟨_, if_pos h, length_ofNat _ _, toNat_ofNat_of_lt h⟩

-- A negative number is written as what it lacks to the next power.
theorem ofInt?_round_trip (width : Nat) {i : Int} (hl : -(256 ^ width : Nat) ≤ 2 * i)
    (hu : 2 * i < (256 ^ width : Nat)) : ∃ b, ofInt? width i = some b ∧ b.length = width ∧ toInt b = i := by
  refine ⟨_, if_pos ⟨hl, hu⟩, length_ofNat _ _, ?_⟩
  have hp : 0 < 256 ^ width := Nat.pow_pos (by decide)
  have hm : (i % (256 ^ width : Nat)).toNat < 256 ^ width := by
    have := Int.emod_lt_of_pos i (show (0 : Int) < (256 ^ width : Nat) by omega)
    omega
  rw [toInt, length_ofNat, toNat_ofNat_of_lt hm]
  generalize hw : 256 ^ width = w at *
  have hc : (256 ^ width : Int) = w := by
    rw [←hw, Int.natCast_pow]
    rfl
  rw [hc]
  by_cases hi : 0 ≤ i
  case pos =>
    rw [Int.emod_eq_of_lt hi (by omega), if_pos (by omega)]
    omega
  case neg =>
    have he : i % (w : Int) = i + w := by
      rw [←Int.add_emod_right, Int.emod_eq_of_lt (by omega) (by omega)]
    rw [he, if_neg (by omega)]
    omega

end Bytes

namespace Storage

-- The greatest number of so many digits and its opposite have room, the sign with them.
theorem binary_wide (digits : Nat) : 2 * 10 ^ digits ≤ 256 ^ binary.length digits := by
  have hle {k : Nat} (h : digits ≤ k) : 10 ^ digits ≤ 10 ^ k := Nat.pow_le_pow_right (by decide) h
  simp only [length]
  split
  case isTrue h => exact Nat.le_trans (Nat.mul_le_mul_left 2 (hle h)) (by decide)
  split
  case isTrue h => exact Nat.le_trans (Nat.mul_le_mul_left 2 (hle h)) (by decide)
  split
  case isTrue h => exact Nat.le_trans (Nat.mul_le_mul_left 2 (hle h)) (by decide)
  case isFalse =>
    have hp : 0 < 10 ^ digits := Nat.pow_pos (by decide)
    have hlog : 10 ^ digits - 1 < 2 ^ (Nat.log2 (10 ^ digits - 1) + 1) := Nat.lt_log2_self
    have hw : Nat.log2 (10 ^ digits - 1) + 2 ≤ 8 * ((Nat.log2 (10 ^ digits - 1) + 9) / 8) := by omega
    calc 2 * 10 ^ digits
      _ ≤ 2 ^ (Nat.log2 (10 ^ digits - 1) + 2) := by
        rw [Nat.pow_succ]
        omega
      _ ≤ 2 ^ (8 * ((Nat.log2 (10 ^ digits - 1) + 9) / 8)) := Nat.pow_le_pow_right (by decide) hw
      _ = 256 ^ ((Nat.log2 (10 ^ digits - 1) + 9) / 8) := Nat.pow_mul 2 8 _

end Storage

namespace FieldType

theorem encodeBinary_round_trip {shape : NumberShape} {n : Int} (hn : n.natAbs < 10 ^ shape.digits)
    (hg : 0 ≤ n ∨ shape.signed) :
    ∃ b, encodeBinary shape n = .ok b ∧ b.length = Storage.binary.length shape.digits ∧
      decodeBinary shape b = n := by
  have hw := Storage.binary_wide shape.digits
  unfold encodeBinary decodeBinary
  by_cases hs : shape.signed
  case pos =>
    have ⟨b, hb, hl, hi⟩ := Bytes.ofInt?_round_trip (Storage.binary.length shape.digits)
      (show _ ≤ 2 * n by omega) (by omega)
    simp only [hs, if_true, hb]
    exact ⟨b, rfl, hl, hi⟩
  case neg =>
    have hn' : n.toNat < 256 ^ Storage.binary.length shape.digits := by omega
    have ⟨b, hb, hl, hi⟩ := Bytes.ofNat?_round_trip hn'
    simp only [hs, hb]
    refine ⟨b, rfl, hl, ?_⟩
    simp [hs] at hg
    simp [hi]
    omega

end FieldType
end Copybook
