import Mathlib
import Copybook.Decimal.Rounding
import Copybook.Proofs.Text.Digits

/-!
Arithmetic of bounded precision loses nothing of a whole number that has no more digits than are kept, whatever
the coefficient and the exponent that the number comes with.
-/

namespace Copybook

namespace Decimal

open Text

-- The value of a finite number.
def toRat : Decimal → ℚ
  | finite negative coefficient exponent => (if negative then -1 else 1) * coefficient * 10 ^ exponent
  | _ => 0

-- The whole number `m` is `c` times ten to `k`.
def Scaled (c : Nat) (k : Int) (m : Nat) : Prop :=
  c * 10 ^ k.toNat = m * 10 ^ (-k).toNat

theorem divHalfEven_mul (q : Nat) {d : Nat} (h : 0 < d) : divHalfEven (q * d) d = q := by
  simp [divHalfEven, Nat.mul_div_cancel q h, h]

theorem divHalfUp_mul (q : Nat) {d : Nat} (h : 0 < d) : divHalfUp (q * d) d = q := by
  have he : 2 * (q * d) + d = d + q * (2 * d) := by
    rw [Nat.add_comm, Nat.mul_left_comm]
  rw [divHalfUp, he, Nat.add_mul_div_right _ _ (by omega), Nat.div_eq_of_lt (by omega), Nat.zero_add]

variable {c m : Nat} {k : Int} {negative : Bool} {p : Precision}

namespace Scaled

theorem of_rat (h : (c : ℚ) * 10 ^ k = m) : Scaled c k m := by
  have hk : k = k.toNat - (-k).toNat := by omega
  rw [hk, zpow_sub₀ (by decide), zpow_natCast, zpow_natCast] at h
  field_simp at h
  rw [Scaled, Nat.mul_comm m]
  exact_mod_cast h

theorem eq_zero (h : Scaled c k 0) : c = 0 := by
  simpa [Scaled] using h

theorem pos (hm : 0 < m) (h : Scaled c k m) : 0 < c := by
  refine Nat.pos_of_ne_zero fun hc => ?_
  rw [Scaled, hc, Nat.zero_mul] at h
  exact absurd h.symm <| Nat.ne_of_gt <| Nat.mul_pos hm (Nat.pow_pos (by decide))

theorem eq_mul (hk : 0 ≤ k) (h : Scaled c k m) : c * 10 ^ k.toNat = m := by
  rwa [Scaled, show (-k).toNat = 0 by omega, Nat.pow_zero, Nat.mul_one] at h

theorem mul_eq (hk : k ≤ 0) (h : Scaled c k m) : c = m * 10 ^ (-k).toNat := by
  rwa [Scaled, show k.toNat = 0 by omega, Nat.pow_zero, Nat.mul_one] at h

theorem digitCount (hm : 0 < m) (h : Scaled c k m) : Text.digitCount c + k = Text.digitCount m := by
  have he : Text.digitCount c + k.toNat = Text.digitCount m + (-k).toNat := by
    rw [←digitCount_mul_pow (h.pos hm), ←digitCount_mul_pow hm, h]
  omega

theorem adjusted (hm : 0 < m) (h : Scaled c k m) : adjusted c k = Text.digitCount m - 1 := by
  have := h.digitCount hm
  unfold Decimal.adjusted
  omega

end Scaled

namespace Precision

theorem keep_overflow (hm : 0 < m) (hl : p.maxExponent < digitCount m - 1) (h : Scaled c k m) :
    p.keep negative c k = .error .overflow := by
  have hc := h.pos hm
  rw [keep, if_neg (by omega), if_pos (by rwa [h.adjusted hm])]

theorem shorten_exact (hm : 0 < m) (hd : digitCount m ≤ p.digits) (hc : p.digits < digitCount c)
    (h : Scaled c k m) : ∃ c' k', p.shorten c k = (c', k') ∧ Scaled c' k' m := by
  have hk := h.digitCount hm
  have ⟨r, hr⟩ : ∃ r, (-k).toNat = r + (digitCount c - p.digits) :=
    ⟨(-k).toNat - (digitCount c - p.digits), by omega⟩
  have hq : divHalfEven c (10 ^ (digitCount c - p.digits)) = m * 10 ^ r := by
    have he := h.mul_eq (by omega)
    rw [hr, Nat.pow_add, ←Nat.mul_assoc] at he
    conv => lhs; arg 1; rw [he]
    exact divHalfEven_mul _ <| Nat.pow_pos (by decide)
  have hn : ¬p.digits < digitCount (m * 10 ^ r) := by
    rw [digitCount_mul_pow hm]
    omega
  refine ⟨m * 10 ^ r, k + (digitCount c - p.digits : Nat), ?_, ?_⟩
  · simp only [shorten, hq, if_neg hn]
  · have hr' : (-(k + (digitCount c - p.digits : Nat))).toNat = r := by omega
    have h0 : (k + (digitCount c - p.digits : Nat)).toNat = 0 := by omega
    rw [Scaled, h0, hr', Nat.pow_zero, Nat.mul_one]

theorem keep_exact (hm : 0 < m) (hd : digitCount m ≤ p.digits) (hl : digitCount m ≤ p.maxExponent + 1)
    (hz : p.minExponent ≤ 0) (h : Scaled c k m) :
    ∃ c' k', p.keep negative c k = .ok (.finite negative c' k') ∧ Scaled c' k' m := by
  have hp := h.pos hm
  have ha := h.adjusted hm
  have := digitCount_pos m
  rw [keep, if_neg (by omega), if_neg (by omega), if_neg (by omega)]
  by_cases hc : digitCount c ≤ p.digits
  case pos => exact ⟨c, k, by rw [if_pos hc], h⟩
  case neg =>
    have ⟨c', k', hs, h'⟩ := shorten_exact hm hd (by omega) h
    refine ⟨c', k', ?_, h'⟩
    have ha' := h'.adjusted hm
    rw [if_neg hc, hs]
    simp only
    rw [if_neg (by omega)]

end Precision

theorem wholeMagnitude_exact (hd : digitCount m ≤ p.digits) (hl : digitCount m ≤ p.maxExponent + 1)
    (h : Scaled c k m) : wholeMagnitude p (.finite negative c k) = .ok m := by
  by_cases hm : m = 0
  case pos => simp [wholeMagnitude, hm, (hm ▸ h).eq_zero]
  case neg =>
    have hm := Nat.pos_of_ne_zero hm
    have hc := h.pos hm
    have hk := h.digitCount hm
    have := digitCount_pos m
    rw [wholeMagnitude, if_neg (by omega), if_neg (by omega)]
    have hw : (if 0 ≤ k then c * 10 ^ k.toNat
        else if k + digitCount c < 0 then 0 else divHalfUp c (10 ^ (-k).toNat)) = m := by
      by_cases h0 : 0 ≤ k
      case pos => rw [if_pos h0, h.eq_mul h0]
      case neg =>
        rw [if_neg h0, if_neg (by omega), h.mul_eq (by omega)]
        exact divHalfUp_mul m (Nat.pow_pos (by decide))
    simp only [hw]
    rw [if_neg (by omega)]

end Decimal
end Copybook
