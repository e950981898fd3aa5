import Mathlib
import Copybook.Proofs.Decimal.Scaling
import Copybook.Proofs.Except

/-!
Which numbers the arithmetic of bounded precision rounds to a whole number at all. It does so as long as the whole
number has no more digits than are kept and than the exponents leave room for; all others it refuses, be it that the
first digit lies too high or that there are too many digits.
-/

namespace Copybook

namespace Decimal

open Text

section Rounding

variable {n d a b : Nat}

-- Rounding to the nearest number passes no number on the way.
theorem divHalfEven_bounds (hd : 0 < d) (ha : a * d ≤ n) (hb : n ≤ b * d) :
    a ≤ divHalfEven n d ∧ divHalfEven n d ≤ b := by
  have hq := (Nat.le_div_iff_mul_le hd).mpr ha
  have hn := Nat.div_add_mod n d
  have hr := Nat.mod_lt n hd
  have hqb : n / d ≤ b := Nat.div_le_of_le_mul (by rwa [Nat.mul_comm])
  have hlt : 0 < n % d → n / d < b := by
    intro hp
    refine Nat.lt_of_le_of_ne hqb fun he => ?_
    rw [he, Nat.mul_comm] at hn
    omega
  simp only [divHalfEven]
  split
  · omega
  · split
    · omega
    · split <;> omega

theorem divHalfUp_between (hd : 0 < d) (ha : a * d ≤ n) (hb : n ≤ b * d) :
    a ≤ divHalfUp n d ∧ divHalfUp n d ≤ b := by
  rw [divHalfUp]
  constructor
  · refine (Nat.le_div_iff_mul_le (by omega)).mpr ?_
    rw [Nat.mul_left_comm]
    omega
  · refine Nat.lt_succ_iff.mp <| (Nat.div_lt_iff_lt_mul (by omega)).mpr ?_
    have := Nat.succ_mul b d
    rw [Nat.mul_left_comm]
    omega

theorem divHalfUp_eq_zero (h : 2 * n < d) : divHalfUp n d = 0 :=
  Nat.div_eq_of_lt (by omega)

end Rounding

theorem pow_le_iff {n k : Nat} (hn : 0 < n) : 10 ^ k ≤ n ↔ k < digitCount n := by
  by_cases hk : k = 0
  case pos =>
    have := digitCount_pos n
    subst hk
    simp only [Nat.pow_zero]
    omega
  case neg =>
    have := digitCount_le_iff (n := n) (k := k) (by omega)
    omega

-- The whole number that is nearest to `c` times ten to `k`, a half going up.
def roundWhole (c : Nat) (k : Int) : Nat :=
  if 0 ≤ k then c * 10 ^ k.toNat else divHalfUp c (10 ^ (-k).toNat)

section Whole

variable {c : Nat} {k : Int}

theorem roundWhole_zero (k : Int) : roundWhole 0 k = 0 := by
  rw [roundWhole]
  split
  · exact Nat.zero_mul _
  · exact divHalfUp_eq_zero (Nat.pow_pos (by decide))

-- A number below one tenth.
theorem roundWhole_small (h : digitCount c + k < 0) : roundWhole c k = 0 := by
  have := digitCount_pos c
  rw [roundWhole, if_neg (by omega)]
  refine divHalfUp_eq_zero ?_
  have hc := lt_pow_digitCount c
  have hp : 10 ^ digitCount c * 10 ≤ 10 ^ (-k).toNat := by
    rw [←Nat.pow_succ]
    exact Nat.pow_le_pow_right (by decide) (by omega)
  omega

-- A number that has a digit before the point at some place is not below the power of ten of that place, and neither is
-- the whole number.
theorem pow_le_roundWhole (hc : 0 < c) {l : Nat} (h : l < digitCount c + k) : 10 ^ l ≤ roundWhole c k := by
  have hlo := (pow_le_iff (k := digitCount c - 1) hc).mpr (by have := digitCount_pos c; omega)
  rw [roundWhole]
  split
  case isTrue hk =>
    calc 10 ^ l
      _ ≤ 10 ^ (digitCount c - 1 + k.toNat) := Nat.pow_le_pow_right (by decide) (by omega)
      _ = 10 ^ (digitCount c - 1) * 10 ^ k.toNat := Nat.pow_add ..
      _ ≤ c * 10 ^ k.toNat := Nat.mul_le_mul_right _ hlo
  case isFalse hk =>
    have hp : 0 < 10 ^ (-k).toNat := Nat.pow_pos (by decide)
    have hl : 10 ^ l * 10 ^ (-k).toNat ≤ c := by
      rw [←Nat.pow_add]
      exact (Nat.pow_le_pow_right (by decide) (by omega)).trans hlo
    exact (divHalfUp_between hp hl (Nat.le_mul_of_pos_right c hp)).left

-- A number that has no more digits, before the point or after it, needs no more digits as a whole number.
theorem roundWhole_lt {d : Nat} (hd : 0 < d) (hc : digitCount c ≤ d) (h : digitCount c + k ≤ d) :
    roundWhole c k < 10 ^ d := by
  have hlt := lt_pow_digitCount c
  rw [roundWhole]
  split
  case isTrue hk =>
    refine Nat.lt_of_lt_of_le (Nat.mul_lt_mul_of_pos_right hlt (Nat.pow_pos (by decide))) ?_
    rw [←Nat.pow_add]
    exact Nat.pow_le_pow_right (by decide) (by omega)
  case isFalse hk =>
    -- Rounding may reach the next power of ten, which has a place less than the digits there are.
    have hp10 : 0 < 10 ^ (-k).toNat := Nat.pow_pos (by decide)
    have ⟨_, hhi⟩ := divHalfUp_between (n := c) (a := 0) (b := 10 ^ (digitCount c - (-k).toNat)) hp10 (by simp) (by
      rw [←Nat.pow_add]
      exact hlt.le.trans (Nat.pow_le_pow_right (by decide) (by omega)))
    exact Nat.lt_of_le_of_lt hhi (Nat.pow_lt_pow_right (by decide) (by omega))

end Whole

namespace Precision

-- A number with no more digits than are kept: the others are rounded away.
def kept (p : Precision) (c : Nat) (k : Int) : Nat × Int :=
  if digitCount c ≤ p.digits then (c, k) else p.shorten c k

-- The whole number that a number is rounded to, from the digits that are kept.
def whole (p : Precision) (c : Nat) (k : Int) : Nat :=
  roundWhole (p.kept c k).1 (p.kept c k).2

-- How many digits there is room for: as many as are kept, and as the greatest exponent allows.
def room (p : Precision) : Nat :=
  min p.digits (p.maxExponent + 1).toNat

-- Why a number is refused: its first digit lies too high, or there are too many digits.
def refusal (p : Precision) (c : Nat) (k : Int) : Fault :=
  if p.maxExponent < adjusted (p.kept c k).1 (p.kept c k).2 then .overflow else .invalidOperation

-- There are digits, and the exponents reach from tenths to units at least.
structure Usable (p : Precision) : Prop where
  digits : 0 < p.digits
  minExponent : p.minExponent < -1
  maxExponent : 0 ≤ p.maxExponent

theorem ofDigits_usable (digits : Nat) : (ofDigits digits).Usable where
  digits := by simp only [ofDigits]; omega
  minExponent := by simp only [ofDigits]; omega
  maxExponent := by simp only [ofDigits]; omega

variable {p : Precision} {c : Nat} {k : Int}

theorem shorten_spec (hp : p.Usable) (hc : p.digits < digitCount c) :
    0 < (p.shorten c k).1 ∧ digitCount (p.shorten c k).1 = p.digits ∧
      ((p.shorten c k).2 = k + (digitCount c - p.digits) ∨ (p.shorten c k).2 = k + (digitCount c - p.digits) + 1) := by
  have hd := hp.digits
  have hpos : 0 < c := by
    refine Nat.pos_of_ne_zero fun h => ?_
    rw [h, show digitCount 0 = 1 from rfl] at hc
    omega
  have hp10 (j : Nat) : 0 < 10 ^ j := Nat.pow_pos (by decide)
  have ⟨hlo, hhi⟩ := divHalfEven_bounds (n := c) (a := 10 ^ (p.digits - 1)) (b := 10 ^ p.digits)
    (hp10 (digitCount c - p.digits))
    (by
      rw [←Nat.pow_add, show p.digits - 1 + (digitCount c - p.digits) = digitCount c - 1 by omega]
      exact (pow_le_iff hpos).mpr (by omega))
    (by
      rw [←Nat.pow_add, show p.digits + (digitCount c - p.digits) = digitCount c by omega]
      exact (lt_pow_digitCount c).le)
  have hr := Nat.lt_of_lt_of_le (hp10 _) hlo
  have hlo' := (pow_le_iff hr).mp hlo
  simp only [shorten]
  split
  case isTrue h =>
    -- The number was rounded up to a power of ten.
    have he := Nat.le_antisymm hhi ((pow_le_iff hr).mpr h)
    have ht : 10 ^ p.digits / 10 = 10 ^ (p.digits - 1) := by
      rw [show p.digits = p.digits - 1 + 1 by omega, Nat.pow_succ, Nat.mul_div_cancel _ (by decide)]
      rfl
    have hc1 := digitCount_mul_pow (n := 1) (by decide) (p.digits - 1)
    rw [Nat.one_mul, show digitCount 1 = 1 from rfl] at hc1
    rw [he, ht]
    exact ⟨hp10 _, by dsimp only; omega, .inr <| by dsimp only; omega⟩
  case isFalse h => exact ⟨hr, by dsimp only; omega, .inl <| by dsimp only; omega⟩

-- To lose digits may bring the first digit one place higher, by nines that are rounded up.
theorem kept_spec (hp : p.Usable) (hc : 0 < c) :
    0 < (p.kept c k).1 ∧ digitCount (p.kept c k).1 ≤ p.digits ∧
      digitCount c + k ≤ digitCount (p.kept c k).1 + (p.kept c k).2 ∧
      digitCount (p.kept c k).1 + (p.kept c k).2 ≤ digitCount c + k + 1 := by
  unfold kept
  split
  case isTrue h => exact ⟨hc, h, Int.le_refl _, by dsimp only; omega⟩
  case isFalse h =>
    have ⟨hpos, hd, hk⟩ := shorten_spec (k := k) hp (show p.digits < digitCount c by omega)
    exact ⟨hpos, hd.le, by omega, by omega⟩

theorem keep_eq (hp : p.Usable) (hc : 0 < c) (hk : p.floor ≤ k ∨ p.minExponent ≤ adjusted c k) (negative : Bool) :
    p.keep negative c k =
      if p.maxExponent < adjusted (p.kept c k).1 (p.kept c k).2 then .error .overflow
      else .ok (.finite negative (p.kept c k).1 (p.kept c k).2) := by
  have ⟨_, _, hle, _⟩ := kept_spec (k := k) hp hc
  rw [keep, if_neg (by omega)]
  by_cases ho : p.maxExponent < adjusted c k
  case pos => rw [if_pos ho, if_pos (by simp only [adjusted] at *; omega)]
  case neg =>
    rw [if_neg ho, if_neg (by omega)]
    unfold kept
    split <;> rfl

-- What lies below the least exponent is nothing.
theorem keep_small (hp : p.Usable) (hc : 0 < c) (hf : k < p.floor) (hk : adjusted c k < p.minExponent)
    (negative : Bool) : ∃ c', p.keep negative c k = .ok (.finite negative c' p.floor) ∧
      (c' = 0 ∨ digitCount c' + p.floor < 0) := by
  have := hp.minExponent
  have := hp.maxExponent
  refine ⟨p.raise c k, ?_, ?_⟩
  · rw [keep, if_neg (by omega), if_neg (by omega), if_pos ⟨hf, hk⟩]
  · simp only [raise]
    split
    case isTrue => exact .inl rfl
    case isFalse h =>
      refine or_iff_not_imp_left.mpr fun hr => ?_
      have hp10 : 0 < 10 ^ (p.floor - k).toNat := Nat.pow_pos (by decide)
      obtain ⟨_, hhi⟩ := divHalfEven_bounds (n := c) (a := 0) (b := 10 ^ (digitCount c - (p.floor - k).toNat))
        hp10 (by simp) (by
          rw [←Nat.pow_add, show digitCount c - (p.floor - k).toNat + (p.floor - k).toNat = digitCount c by omega]
          exact (lt_pow_digitCount c).le)
      have hd : digitCount (divHalfEven c (10 ^ (p.floor - k).toNat)) ≤
          digitCount c - (p.floor - k).toNat + 1 := by
        refine (digitCount_le_iff (by omega)).mpr ?_
        exact Nat.lt_of_le_of_lt hhi (Nat.pow_lt_pow_right (by decide) (by omega))
      simp only [adjusted] at hk
      omega

end Precision

variable {p : Precision} {c : Nat} {k : Int}

theorem wholeMagnitude_of_le (hc : 0 < c) (hl : digitCount c + k ≤ p.digits) (negative : Bool) :
    wholeMagnitude p (.finite negative c k) =
      if p.maxExponent < digitCount (roundWhole c k) - 1 then .error .invalidOperation
      else .ok (roundWhole c k) := by
  have hw : (if 0 ≤ k then c * 10 ^ k.toNat
      else if k + digitCount c < 0 then 0 else divHalfUp c (10 ^ (-k).toNat)) = roundWhole c k := by
    rw [roundWhole]
    split
    case isTrue => rfl
    case isFalse hk =>
      split
      case isTrue h =>
        have hs := roundWhole_small (c := c) (k := k) (by omega)
        rwa [roundWhole, if_neg hk, eq_comm] at hs
      case isFalse => rfl
  rw [wholeMagnitude, if_neg (by omega), if_neg (by omega)]
  simp only [hw]

theorem wholeMagnitude_small (hp : p.Usable) (h : c = 0 ∨ digitCount c + k < 0) (negative : Bool) :
    wholeMagnitude p (.finite negative c k) = .ok 0 := by
  have := hp.maxExponent
  by_cases hc : c = 0
  case pos => rw [wholeMagnitude, if_pos hc]
  case neg =>
    have h := h.resolve_left hc
    rw [wholeMagnitude_of_le (by omega) (by omega), roundWhole_small h, show digitCount 0 = 1 from rfl,
      if_neg (by omega)]

-- A number that has been kept comes to a whole number if there is room for its digits.
theorem wholeMagnitude_eq (hp : p.Usable) (hc : 0 < c) (hd : digitCount c ≤ p.digits) (negative : Bool) :
    wholeMagnitude p (.finite negative c k) =
      if roundWhole c k < 10 ^ p.room then .ok (roundWhole c k) else .error .invalidOperation := by
  have := hp.maxExponent
  have := hp.digits
  by_cases hl : digitCount c + k ≤ p.digits
  case neg =>
    have hr : 10 ^ p.room ≤ roundWhole c k := pow_le_roundWhole hc (by simp only [Precision.room]; omega)
    rw [wholeMagnitude, if_neg (by omega), if_pos (by omega), if_neg (by omega)]
  case pos =>
    have hm := digitCount_le_iff (n := roundWhole c k) (k := (p.maxExponent + 1).toNat) (by omega)
    have hw : p.maxExponent < digitCount (roundWhole c k) - 1 ↔ ¬roundWhole c k < 10 ^ p.room := by
      by_cases hr : (p.maxExponent + 1).toNat ≤ p.digits
      case pos =>
        rw [Precision.room, min_eq_right hr, ←hm]
        omega
      case neg =>
        have hlt := roundWhole_lt hp.digits hd hl
        have := (digitCount_le_iff hp.digits).mpr hlt
        rw [Precision.room, min_eq_left (by omega)]
        omega
    rw [wholeMagnitude_of_le hc hl]
    by_cases hr : roundWhole c k < 10 ^ p.room
    case pos => rw [if_neg fun h => hw.mp h hr, if_pos hr]
    case neg => rw [if_pos (hw.mpr hr), if_neg hr]

theorem toInt_finite (p : Precision) (negative : Bool) (c : Nat) (k : Int) :
    toInt p (.finite negative c k) = (wholeMagnitude p (.finite negative c k)).map fun n => signed negative n := by
  rw [toInt]
  cases wholeMagnitude p (.finite negative c k)
  case error => rfl
  case ok => cases negative <;> rfl

theorem whole_zero (hp : p.Usable) (k : Int) : p.whole 0 k = 0 := by
  have := hp.digits
  rw [Precision.whole, Precision.kept, show digitCount 0 = 1 from rfl, if_pos (by omega)]
  exact roundWhole_zero k

theorem whole_small (hp : p.Usable) (hc : 0 < c) (h : adjusted c k < p.minExponent) : p.whole c k = 0 := by
  have := hp.minExponent
  have ⟨_, _, _, hk⟩ := Precision.kept_spec (k := k) hp hc
  simp only [adjusted] at h
  exact roundWhole_small (by omega)

-- The whole number has all digits before the point.
theorem pow_le_whole (hp : p.Usable) (hc : 0 < c) {l : Nat} (h : l < digitCount c + k) : 10 ^ l ≤ p.whole c k := by
  have ⟨hc', _, hk, _⟩ := Precision.kept_spec (k := k) hp hc
  exact pow_le_roundWhole hc' (Int.lt_of_lt_of_le h hk)

-- Scaling a number and rounding it to a whole one comes to the whole number if there is room for its digits, and is
-- refused if there is not.
theorem toInt_scale (hp : p.Usable) (negative : Bool) (c : Nat) (e places : Int) :
    (scale p (.finite negative c e) places >>= toInt p) =
      if p.whole c (e + places) < 10 ^ p.room then .ok (signed negative (p.whole c (e + places)))
      else .error (p.refusal c (e + places)) := by
  rw [scale]
  generalize e + places = k
  have zero : 0 < 10 ^ p.room := Nat.pow_pos (by decide)
  have := hp.maxExponent
  by_cases hc : c = 0
  case pos =>
    subst hc
    rw [Precision.keep, if_pos rfl, whole_zero hp, if_pos zero]
    rw [ok_bind, toInt_finite, wholeMagnitude_small hp (.inl rfl)]
    rfl
  case neg =>
    have hc : 0 < c := by omega
    by_cases hs : k < p.floor ∧ adjusted c k < p.minExponent
    case pos =>
      obtain ⟨c', hk, hs'⟩ := Precision.keep_small hp hc hs.left hs.right negative
      rw [hk, whole_small hp hc hs.right, if_pos zero]
      rw [ok_bind, toInt_finite, wholeMagnitude_small hp hs']
      rfl
    case neg =>
      obtain ⟨hc', hd, _, _⟩ := Precision.kept_spec (k := k) hp hc
      rw [Precision.keep_eq hp hc (by omega), Precision.refusal]
      split
      case isTrue ho =>
        simp only [adjusted] at ho
        have hr : 10 ^ p.room ≤ p.whole c k := pow_le_roundWhole hc' (by simp only [Precision.room]; omega)
        rw [if_neg (by omega), error_bind]
      case isFalse ho =>
        rw [ok_bind, toInt_finite, wholeMagnitude_eq hp hc' hd, Precision.whole]
        split <;> rfl

end Decimal
end Copybook
