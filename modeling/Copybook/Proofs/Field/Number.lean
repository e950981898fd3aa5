import Mathlib
import Copybook.Field.Number
import Copybook.Proofs.Decimal.Scaling

/-!
The integers that numeric fields store: a number that fits the picture of a field is stored exactly and comes back
as it was, unless it has more than a million digits.
-/

namespace Copybook

namespace Decimal

open Text

-- A number of `places` decimal places as a whole number of units of the last one.
theorem scaled_of_toRat {negative : Bool} {c places : Nat} {e n : Int}
    (h : (finite negative c e).toRat = n / 10 ^ places) :
    Scaled c (e + places) n.natAbs ∧ (if negative then -(n.natAbs : Int) else n.natAbs) = n := by
  have hp : (0 : ℚ) < 10 ^ places := pow_pos (by decide) _
  have hc : (0 : ℚ) ≤ c * 10 ^ (e + places) :=
    mul_nonneg (Nat.cast_nonneg c) <| zpow_nonneg (by decide) _
  have h : (if negative then -1 else 1) * ((c : ℚ) * 10 ^ (e + places)) = n := by
    rw [toRat, eq_div_iff hp.ne', mul_assoc, mul_assoc, ←zpow_natCast, ←zpow_add₀ (by decide)] at h
    exact h
  cases negative
  case false =>
    have h : (c : ℚ) * 10 ^ (e + places) = n := by simpa using h
    have hn : 0 ≤ n := by exact_mod_cast h ▸ hc
    have ⟨m, hm⟩ := Int.eq_ofNat_of_zero_le hn
    subst hm
    exact ⟨.of_rat <| by exact_mod_cast h, by simp⟩
  case true =>
    have h : (c : ℚ) * 10 ^ (e + places) = (-n : Int) := by
      rw [Int.cast_neg, ←h]
      simp
    have hn : 0 ≤ -n := by exact_mod_cast h ▸ hc
    have ⟨m, hm⟩ := Int.eq_ofNat_of_zero_le hn
    have hm : n = -m := by omega
    subst hm
    refine ⟨.of_rat ?_, by simp⟩
    rw [h]
    simp

variable {p : Precision} {negative : Bool} {c m : Nat} {k : Int}

theorem toInt_exact (hd : digitCount m ≤ p.digits) (hl : digitCount m ≤ p.maxExponent + 1) (h : Scaled c k m) :
    toInt p (.finite negative c k) = .ok (if negative then -(m : Int) else m) := by
  rw [toInt, wholeMagnitude_exact hd hl h]
  cases negative <;> rfl

end Decimal

namespace NumberShape

open Decimal Text

variable {shape : NumberShape} {n : Int} {d : Decimal} {v : Value}

theorem digits_le_precision (shape : NumberShape) : shape.digits ≤ shape.precision.digits := by
  simp only [precision, Precision.ofDigits]
  omega

theorem digitCount_le_precision (hs : 0 < shape.digits) (hn : n.natAbs < 10 ^ shape.digits) :
    digitCount n.natAbs ≤ shape.precision.digits :=
  ((digitCount_le_iff hs).mpr hn).trans shape.digits_le_precision

-- The units of a number whose digits are all kept, if it has no more than a million.
theorem units_exact (hp : digitCount n.natAbs ≤ shape.precision.digits) (hl : digitCount n.natAbs ≤ 1000000)
    (hf : d.isFinite) (hd : d.toRat = n / 10 ^ shape.fracDigits) : shape.units d = .ok n := by
  have hx : (digitCount n.natAbs : Int) ≤ shape.precision.maxExponent + 1 := by
    simp only [precision, Precision.ofDigits]
    omega
  cases d <;> simp only [isFinite, Bool.false_eq_true] at hf
  case finite negative c e =>
    obtain ⟨h, hsign⟩ := scaled_of_toRat hd
    rw [units, scale]
    obtain ⟨c', k', hk, h'⟩ : ∃ c' k', shape.precision.keep negative c (e + shape.fracDigits) =
        .ok (.finite negative c' k') ∧ Scaled c' k' n.natAbs := by
      by_cases hz : n.natAbs = 0
      case pos =>
        rw [hz] at h ⊢
        refine ⟨0, _, by rw [Precision.keep, if_pos h.eq_zero], ?_⟩
        simp [Scaled]
      case neg => exact Precision.keep_exact (Nat.pos_of_ne_zero hz) hp hx (show (-999999 : Int) ≤ 0 by decide) h
    rw [hk, ←hsign]
    exact toInt_exact hp hx h'

theorem units_overflow (hl : 1000000 < digitCount n.natAbs) (hf : d.isFinite)
    (hd : d.toRat = n / 10 ^ shape.fracDigits) : shape.units d = .error .overflow := by
  have hm : 0 < n.natAbs := by
    refine Nat.pos_of_ne_zero fun hz => ?_
    rw [hz] at hl
    exact absurd hl (by decide)
  have hx : shape.precision.maxExponent < (digitCount n.natAbs : Int) - 1 := by
    simp only [precision, Precision.ofDigits]
    omega
  cases d <;> simp only [isFinite, Bool.false_eq_true] at hf
  case finite negative c e =>
    have ⟨h, _⟩ := scaled_of_toRat hd
    rw [units, scale, Precision.keep_overflow hm hx h]
    rfl

-- What is stored for a number is its units, if the field can hold them.
theorem stored_of_number (hv : number v = .ok d) (hf : d.isFinite) :
    shape.stored v = (do
      let n ← (shape.units d).mapError .arithmetic
      if n < 0 ∧ !shape.signed then throw (.negative v)
      if 10 ^ shape.digits ≤ n.natAbs then throw (.tooManyDigits v shape.intDigits shape.fracDigits)
      return n) := by
  unfold stored
  split
  case _ => contradiction
  case _ =>
    rw [hv]
    exact if_neg (by simp [hf])

theorem stored_exact (hs : 0 < shape.digits) (hn : n.natAbs < 10 ^ shape.digits) (hg : 0 ≤ n ∨ shape.signed)
    (hl : digitCount n.natAbs ≤ 1000000) (hv : number v = .ok d) (hf : d.isFinite)
    (hd : d.toRat = n / 10 ^ shape.fracDigits) : shape.stored v = .ok n := by
  have hg : ¬(n < 0 ∧ !shape.signed) := by
    simp only [Bool.not_eq_true', not_and, Bool.not_eq_false]
    cases hg
    case inl hg => omega
    case inr hg => exact fun _ => hg
  rw [stored_of_number hv hf, units_exact (digitCount_le_precision hs hn) hl hf hd]
  simp only [Except.mapError, Except.bind, bind]
  rw [if_neg hg, if_neg (by omega)]
  rfl

theorem stored_overflow (hl : 1000000 < digitCount n.natAbs) (hv : number v = .ok d) (hf : d.isFinite)
    (hd : d.toRat = n / 10 ^ shape.fracDigits) : shape.stored v = .error (.arithmetic .overflow) := by
  rw [stored_of_number hv hf, units_overflow hl hf hd]
  rfl

-- The value that a stored integer has.
def exact (shape : NumberShape) (n : Int) : Value :=
  if shape.fracDigits = 0 then .int n
  else .decimal (.finite (decide (n < 0)) n.natAbs (-shape.fracDigits))

-- A number whose digits are all kept has that value unless its first digit lies too high.
theorem value_eq (hp : digitCount n.natAbs ≤ shape.precision.digits) : shape.value n =
    if shape.fracDigits ≠ 0 ∧ n.natAbs ≠ 0 ∧ 999999 < adjusted n.natAbs (-shape.fracDigits) then
      .error (.arithmetic .overflow)
    else .ok (shape.exact n) := by
  by_cases hf : shape.fracDigits = 0
  case pos => simp [value, exact, hf]
  case neg =>
    have hx : shape.precision.maxExponent = 999999 := rfl
    have hm : shape.precision.floor ≤ -shape.fracDigits := by
      simp only [Precision.floor, precision, Precision.ofDigits, digits]
      omega
    simp only [value, exact, hf, if_false, Decimal.ofInt, scale, Int.zero_add, ne_eq, not_false_eq_true, true_and]
    rw [Precision.keep, hx]
    by_cases hz : n.natAbs = 0
    case pos => simp [hz, max_eq_right hm, Except.map, Except.mapError]
    case neg =>
      by_cases ho : 999999 < adjusted n.natAbs (-shape.fracDigits)
      case pos => simp [hz, ho, Except.map, Except.mapError]
      case neg =>
        rw [if_neg hz, if_neg ho, if_neg (by omega), if_pos hp, if_neg (fun h => ho h.right)]
        rfl

theorem value_exact (hs : 0 < shape.digits) (hn : n.natAbs < 10 ^ shape.digits)
    (hl : digitCount n.natAbs ≤ 1000000) : shape.value n = .ok (shape.exact n) := by
  rw [value_eq (digitCount_le_precision hs hn), if_neg]
  rintro ⟨_, _, ho⟩
  simp only [adjusted] at ho
  omega

end NumberShape
end Copybook
