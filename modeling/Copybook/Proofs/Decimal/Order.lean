import Mathlib
import Copybook.Proofs.Decimal.Nearest

/-!
Rounding keeps numbers in order, however many digits they are written with. A number is rounded twice, but what both
roundings come to is one floor of it, half a unit of its last digit kept being added to the half; and that unit is no
smaller for a greater number.
-/

namespace Copybook.Decimal

open Text

variable {p : Precision} {c c' : Nat} {k k' : Int} {negative negative' : Bool}

namespace Precision

theorem unit_mono (p : Precision) {x y : ℚ} (hx : 0 < x) (h : x ≤ y) : p.unit x ≤ p.unit y := by
  have hlog : Int.log 10 x ≤ Int.log 10 y := Int.log_mono_right hx h
  rw [unit, unit, abs_of_pos hx, abs_of_pos (hx.trans_le h)]
  exact zpow_le_zpow_right₀ (by decide) (by omega)

-- Whole numbers with room for two places more are in the order of the numbers that come to them.
theorem whole_mono (hp : p.Usable) (hk : 0 < c → digitCount c + k + 2 ≤ p.digits)
    (hk' : 0 < c' → digitCount c' + k' + 2 ≤ p.digits) (h : (c : ℚ) * 10 ^ k ≤ c' * 10 ^ k') :
    p.whole c k ≤ p.whole c' k' := by
  by_cases hc : 0 < c
  case neg =>
    obtain rfl : c = 0 := by omega
    rw [whole_zero hp]
    exact Nat.zero_le _
  case pos =>
    have hy := magnitude_pos (k := k) hc
    have hc' : 0 < c' := by
      refine Nat.pos_of_ne_zero fun hz => ?_
      rw [hz, Nat.cast_zero, zero_mul] at h
      exact absurd hy h.not_gt
    have hu := p.unit_mono hy h
    rw [←Int.ofNat_le, whole_eq_floor hp hc (hk hc), whole_eq_floor hp hc' (hk' hc')]
    exact Int.floor_le_floor (by linarith)

end Precision

-- So are they with their signs.
theorem signed_whole_mono (hp : p.Usable) (hk : 0 < c → digitCount c + k + 2 ≤ p.digits)
    (hk' : 0 < c' → digitCount c' + k' + 2 ≤ p.digits)
    (h : toRat (.finite negative c k) ≤ toRat (.finite negative' c' k')) :
    signed negative (p.whole c k) ≤ signed negative' (p.whole c' k') := by
  have positive (c : Nat) (k : Int) : (0 : ℚ) ≤ c * 10 ^ k :=
    mul_nonneg (Nat.cast_nonneg c) (zpow_nonneg (by decide) k)
  have hy := positive c k
  have hy' := positive c' k'
  cases negative <;> cases negative' <;>
    simp only [toRat, signed, Bool.false_eq_true, if_true, if_false, one_mul, neg_mul, neg_le_neg_iff] at h ⊢
  case false.false => exact Int.ofNat_le.mpr (Precision.whole_mono hp hk hk' h)
  case true.true => exact Int.ofNat_le.mpr (Precision.whole_mono hp hk' hk h)
  case true.false => omega
  case false.true =>
    -- Neither of them is anything but zero.
    have zero {c : Nat} {k : Int} (hz : (c : ℚ) * 10 ^ k = 0) : p.whole c k = 0 := by
      rcases mul_eq_zero.mp hz with hz | hz
      · rw [Nat.cast_eq_zero.mp hz]
        exact whole_zero hp k
      · exact absurd hz (zpow_pos (by decide) k).ne'
    rw [zero (by linarith), zero (by linarith)]
    decide

end Copybook.Decimal
