import Copybook.Proofs.Decimal.Nearest
import Copybook.Proofs.Field.Fault

/-!
The integer that is stored for a number: the nearest one to its units of the last decimal place, of two the one farther
from zero, unless these lie so little below a half that the digits that tell so are lost.
-/

namespace Copybook.NumberShape

open Decimal Text

variable {shape : NumberShape} {v : Value} {d : Decimal} {negative : Bool} {c : Nat} {e n : Int}

-- What is stored for a number is its units.
theorem units_of_stored (hv : number v = .ok d) (h : shape.stored v = .ok n) : d.isFinite ∧ shape.units d = .ok n := by
  by_cases hf : d.isFinite
  case pos =>
    rw [stored_of_number hv hf] at h
    have ⟨m, hm, h⟩ := bind_eq_ok_iff.mp h
    have ⟨_, h⟩ := check_eq_ok_iff.mp h
    have ⟨_, h⟩ := check_eq_ok_iff.mp h
    cases h
    exact ⟨hf, mapError_eq_ok_iff.mp hm⟩
  case neg =>
    unfold stored at h
    split at h
    case _ => contradiction
    case _ =>
      rw [hv, ok_bind] at h
      exact absurd (check_eq_ok_iff.mp h).left (by simpa using hf)

theorem signed_whole_of_units (h : shape.units (.finite negative c e) = .ok n) :
    Text.signed negative (shape.whole c e) = n := by
  rw [units_eq] at h
  split at h
  case isTrue => exact Except.ok.inj h
  case isFalse => contradiction

-- The digits before the point are no more than those of the field, and at least a dozen more are kept.
theorem digitCount_add_le (hc : 0 < c) (hn : shape.whole c e < 10 ^ shape.digits) :
    digitCount c + (e + shape.fracDigits) + 2 ≤ shape.precision.digits := by
  have hl : digitCount c + (e + shape.fracDigits) ≤ shape.digits := by
    refine Int.not_lt.mp fun hlt => ?_
    exact absurd hn <| Nat.not_lt.mpr <| pow_le_whole (Precision.ofDigits_usable _) hc hlt
  simp only [precision, Precision.ofDigits]
  omega

-- A number is stored as the whole number of units that is nearest to it, of two the one that is farther from zero. Only
-- what lies just below a half is stored as if it were the half.
theorem stored_nearest (hv : number v = .ok d) (h : shape.stored v = .ok n) :
    let x := d.toRat * 10 ^ shape.fracDigits
    (n = nearest x ↔ ¬shape.precision.JustBelowHalf x) ∧
      (shape.precision.JustBelowHalf x → n = nearest x + if x < 0 then -1 else 1) := by
  intro x
  obtain ⟨hf, hu⟩ := units_of_stored hv h
  cases d <;> simp only [isFinite, Bool.false_eq_true] at hf
  case finite negative c e =>
    have hw := signed_whole_of_units hu
    have hn : shape.whole c e < 10 ^ shape.digits := by
      have := (fits_of_stored h).left
      rwa [←hw, natAbs_signed] at this
    have hd : 1 < shape.precision.digits := by
      simp only [precision, Precision.ofDigits]
      omega
    have hround := signed_whole (p := shape.precision) (Precision.ofDigits_usable _) hd negative fun hc =>
      digitCount_add_le hc hn
    rw [←toRat_mul_pow] at hround
    obtain ⟨hnear, hjust⟩ : (¬shape.precision.JustBelowHalf x → n = nearest x) ∧
        (shape.precision.JustBelowHalf x → n = nearest x + if x < 0 then -1 else 1) := hw ▸ hround
    refine ⟨⟨fun he hj => ?_, hnear⟩, hjust⟩
    have hs : (if x < 0 then (-1 : ℤ) else 1) = 0 := left_eq_add.mp (he.symm.trans (hjust hj))
    split at hs <;> contradiction

-- A half less one in the twenty-ninth place, which is the first one that is not kept, below zero.
def nines : Decimal :=
  .finite true 49999999999999999999999999999 (-29)

theorem stored_nines : stored ⟨1, 0, true⟩ (.decimal nines) = .ok (-1) :=
  toOption_eq_some_iff.mp (by decide +kernel)

-- They are stored as minus one, though zero is nearest to them.
theorem nines_nearest : number (.decimal nines) = .ok nines ∧ stored ⟨1, 0, true⟩ (.decimal nines) = .ok (-1) ∧
    (NumberShape.precision ⟨1, 0, true⟩).JustBelowHalf (nines.toRat * 10 ^ 0) ∧
    nearest (nines.toRat * 10 ^ 0) = 0 := by
  have hv : number (.decimal nines) = .ok nines := rfl
  have hx : |nines.toRat * 10 ^ 0| = ((49999999999999999999999999999 : Nat) : ℚ) * 10 ^ (-29 : Int) := by
    norm_num [nines, toRat]
  have hu : (NumberShape.precision ⟨1, 0, true⟩).unit (nines.toRat * 10 ^ 0) = 10 ^ (-28 : Int) := by
    rw [Precision.unit, hx, Precision.log_eq (by decide)]
    rfl
  have hj : (NumberShape.precision ⟨1, 0, true⟩).JustBelowHalf (nines.toRat * 10 ^ 0) := by
    rw [Precision.JustBelowHalf, hu, hx, Int.fract_eq_self.mpr (by norm_num)]
    norm_num
  have hn : -1 = nearest (nines.toRat * 10 ^ 0) + if nines.toRat * 10 ^ 0 < 0 then -1 else 1 :=
    (stored_nearest hv stored_nines).right hj
  rw [if_pos (by norm_num [nines, toRat])] at hn
  exact ⟨hv, stored_nines, hj, by omega⟩

theorem not_every_number_nearest : ¬∀ (shape : NumberShape) (v : Value) (d : Decimal) (n : Int), number v = .ok d →
    shape.stored v = .ok n → n = nearest (d.toRat * 10 ^ shape.fracDigits) := by
  intro h
  have := h _ _ _ _ rfl stored_nines
  norm_num [nearest, nines, toRat, round_eq] at this

end Copybook.NumberShape
