import Mathlib
import Copybook.Proofs.Decimal.Range

/-!
The whole number that is nearest to a number, and what the arithmetic of bounded precision makes of it. A number is
rounded twice there, first to the digits that are kept and then to a whole number, and the first rounding may carry what
lies just below a half up to it.
-/

namespace Copybook

namespace Decimal

open Text

-- The whole number nearest to a number, of two the one that is farther from zero.
def nearest (x : ℚ) : ℤ :=
  if x < 0 then -round (-x) else round x

section Reaching

variable {a c d n t : Nat} {k : Int}

theorem le_divHalfUp_iff (hd : 0 < d) : a ≤ divHalfUp n d ↔ 2 * (a * d) ≤ 2 * n + d := by
  rw [divHalfUp, Nat.le_div_iff_mul_le (by omega), Nat.mul_left_comm]

-- An even number is reached from a half below it, since the tie goes to it.
theorem le_divHalfEven_iff (hd : 0 < d) (ha : a % 2 = 0) : a ≤ divHalfEven n d ↔ 2 * (a * d) ≤ 2 * n + d := by
  have hn := Nat.div_add_mod n d
  have hr := Nat.mod_lt n hd
  rcases Nat.lt_trichotomy a (n / d + 1) with h | h | h
  case inl =>
    have hle : a * d ≤ n := (Nat.le_div_iff_mul_le hd).mp (by omega)
    have := (divHalfEven_bounds (b := n) hd hle (Nat.le_mul_of_pos_right n hd)).left
    omega
  case inr.inl =>
    have hm : a * d = d * (n / d) + d := by
      rw [h, Nat.succ_mul, Nat.mul_comm]
    simp only [divHalfEven]
    split
    · omega
    · split
      · omega
      · rw [if_neg (by omega)]
        omega
  case inr.inr =>
    have hlt {b : Nat} (hb : n / d < b) : n < b * d := (Nat.div_lt_iff_lt_mul hd).mp hb
    have := (divHalfEven_bounds (a := 0) hd (by simp) (hlt (Nat.lt_succ_self _)).le).right
    have := hlt (b := a - 1) (by omega)
    have hm : a * d = (a - 1) * d + d := by
      rw [←Nat.succ_mul, Nat.succ_eq_add_one, Nat.sub_add_cancel (by omega)]
    omega

theorem le_roundWhole_iff : a ≤ roundWhole c k ↔ (a : ℚ) ≤ c * 10 ^ k + 1 / 2 := by
  rw [roundWhole]
  split
  case isTrue hk =>
    obtain ⟨j, rfl⟩ := Int.eq_ofNat_of_zero_le hk
    have hx : (c : ℚ) * 10 ^ (j : Int) = (c * 10 ^ j : Nat) := by
      push_cast
      rw [zpow_natCast]
    rw [Int.toNat_natCast, hx]
    constructor <;> intro h
    · have : (a : ℚ) ≤ (c * 10 ^ j : Nat) := by exact_mod_cast h
      linarith
    · have : (a : ℚ) < (c * 10 ^ j : Nat) + 1 := by linarith
      exact Nat.lt_succ_iff.mp (by exact_mod_cast this)
  case isFalse hk =>
    obtain ⟨j, rfl⟩ : ∃ j : Nat, k = -j := ⟨(-k).toNat, by omega⟩
    have hp : (0 : ℚ) < 10 ^ j := pow_pos (by decide) j
    rw [Int.neg_neg, Int.toNat_natCast, le_divHalfUp_iff (Nat.pow_pos (by decide)), zpow_neg, zpow_natCast,
      ←div_eq_mul_inv, div_add_div _ _ hp.ne' (by decide), le_div_iff₀ (by positivity), ←Nat.cast_le (α := ℚ)]
    push_cast
    constructor <;> intro h <;> linarith

-- What is a number of parts, two of which make a half, does not reach a whole number by half a part more.
theorem le_add_half_iff (ht : 0 < t) (h2 : t % 2 = 0) :
    (a : ℚ) ≤ n / t + 1 / 2 ↔ (a : ℚ) ≤ n / t + (1 + 1 / t) / 2 := by
  have hp : (0 : ℚ) < t := by exact_mod_cast ht
  have hl : (a : ℚ) ≤ n / t + 1 / 2 ↔ 2 * (a * t) ≤ 2 * n + t := by
    rw [div_add_div _ _ hp.ne' (by decide), le_div_iff₀ (by positivity), ←Nat.cast_le (α := ℚ)]
    push_cast
    constructor <;> intro h <;> linarith
  have hr : (a : ℚ) ≤ n / t + (1 + 1 / t) / 2 ↔ 2 * (a * t) ≤ 2 * n + t + 1 := by
    rw [show (n : ℚ) / t + (1 + 1 / t) / 2 = (2 * n + t + 1) / (2 * t) by field_simp; ring,
      le_div_iff₀ (by positivity), ←Nat.cast_le (α := ℚ)]
    push_cast
    constructor <;> intro h <;> linarith
  rw [hl, hr]
  omega

-- A number that has been rounded to such parts reaches a whole number from half a part before the half: the half lies
-- on an even number of parts.
theorem divHalfEven_reaches_iff (hd : 0 < d) (ht : 0 < t) (h4 : t % 4 = 0) :
    (a : ℚ) ≤ divHalfEven n d / t + 1 / 2 ↔ (a : ℚ) ≤ n / (d * t) + (1 + 1 / t) / 2 := by
  have hp : (0 : ℚ) < t := by exact_mod_cast ht
  have hdp : (0 : ℚ) < d := by exact_mod_cast hd
  have hl : (a : ℚ) ≤ divHalfEven n d / t + 1 / 2 ↔ 2 * (a * t) ≤ 2 * divHalfEven n d + t := by
    rw [div_add_div _ _ hp.ne' (by decide), le_div_iff₀ (by positivity), ←Nat.cast_le (α := ℚ)]
    push_cast
    constructor <;> intro h <;> linarith
  have hr : (a : ℚ) ≤ n / (d * t) + (1 + 1 / t) / 2 ↔ 2 * (a * t * d) ≤ 2 * n + t * d + d := by
    rw [show (n : ℚ) / (d * t) + (1 + 1 / t) / 2 = (2 * n + t * d + d) / (2 * (d * t)) by field_simp; ring,
      le_div_iff₀ (by positivity), ←Nat.cast_le (α := ℚ)]
    push_cast
    constructor <;> intro h <;> linarith
  rw [hl, hr]
  cases a
  case zero => simp
  case succ a =>
    obtain ⟨s, rfl⟩ : ∃ s, t = 4 * s := ⟨t / 4, by omega⟩
    have he := le_divHalfEven_iff (a := (2 * a + 1) * (2 * s)) (n := n) hd (by
      rw [Nat.mul_left_comm]
      exact Nat.mul_mod_right 2 _)
    have ha : 2 * ((a + 1) * (4 * s)) = 2 * ((2 * a + 1) * (2 * s)) + 4 * s := by ring
    have had : 2 * ((a + 1) * (4 * s) * d) = 2 * ((2 * a + 1) * (2 * s) * d) + 4 * s * d := by ring
    omega

end Reaching

-- To add a little more than a half before the places are cut off carries what lies just below a half.
theorem floor_eq_round {x u : ℚ} (hu : 0 < u) (h1 : u ≤ 1) : ⌊x + (1 + u) / 2⌋ =
    if (1 - u) / 2 ≤ Int.fract x ∧ Int.fract x < 1 / 2 then round x + 1 else round x := by
  have hf := Int.floor_add_fract x
  have hlt := Int.fract_lt_one x
  have h0 := Int.fract_nonneg x
  have hr : round x = if Int.fract x < 1 / 2 then ⌊x⌋ else ⌊x⌋ + 1 := by
    rw [round_eq, Int.floor_eq_iff]
    split <;> push_cast <;> constructor <;> linarith
  rw [hr, Int.floor_eq_iff]
  split
  case isTrue h =>
    rw [if_pos h.right]
    push_cast
    constructor <;> linarith
  case isFalse h =>
    split
    case isTrue hh =>
      have := not_le.mp (mt (⟨·, hh⟩) h)
      constructor <;> linarith
    case isFalse hh =>
      push_cast
      constructor <;> linarith

namespace Precision

variable {p : Precision} {a c : Nat} {k : Int}

-- Where the digits of a number are lost, its value is rounded to the last one that is kept.
theorem shorten_value (hp : p.Usable) (hc : p.digits < digitCount c) :
    ((p.shorten c k).1 : ℚ) * 10 ^ (p.shorten c k).2 =
      divHalfEven c (10 ^ (digitCount c - p.digits)) * 10 ^ (k + (digitCount c - p.digits : Nat)) := by
  simp only [shorten]
  split
  case isFalse => rfl
  case isTrue h =>
    -- The number was rounded up to a power of ten.
    obtain ⟨_, hhi⟩ := divHalfEven_bounds (n := c) (a := 0) (b := 10 ^ p.digits)
      (Nat.pow_pos (by decide) : 0 < 10 ^ (digitCount c - p.digits)) (by simp) (by
        rw [←Nat.pow_add, show p.digits + (digitCount c - p.digits) = digitCount c by omega]
        exact (lt_pow_digitCount c).le)
    have hlo : 10 ^ p.digits ≤ divHalfEven c (10 ^ (digitCount c - p.digits)) := by
      refine Nat.not_lt.mp fun hlt => ?_
      have := (digitCount_le_iff hp.digits).mpr hlt
      omega
    obtain ⟨e, he⟩ : ∃ e, p.digits = e + 1 := ⟨p.digits - 1, by have := hp.digits; omega⟩
    rw [Nat.le_antisymm hhi hlo, he, Nat.pow_succ, Nat.mul_div_cancel _ (by decide : 0 < 10),
      zpow_add₀ (by decide : (10 : ℚ) ≠ 0)]
    push_cast
    ring

-- A number reaches a whole number from half a unit of the last digit kept before the half that is rounded up.
theorem le_whole_iff (hp : p.Usable) (hk : digitCount c + k + 2 ≤ p.digits) :
    a ≤ p.whole c k ↔ (a : ℚ) ≤ c * 10 ^ k + (1 + 10 ^ (digitCount c + k - p.digits)) / 2 := by
  obtain ⟨t, ht⟩ : ∃ t : Nat, digitCount c + k - p.digits = -(t + 2 : Nat) :=
    ⟨(p.digits - digitCount c - k - 2).toNat, by omega⟩
  have hpos : 0 < 10 ^ (t + 2) := Nat.pow_pos (by decide)
  have h4 : 10 ^ (t + 2) % 4 = 0 := by
    rw [Nat.pow_add]
    omega
  have h10 : (10 : ℚ) ≠ 0 := by decide
  have hu : (10 : ℚ) ^ (-(t + 2 : Nat) : Int) = 1 / (10 ^ (t + 2) : Nat) := by
    rw [zpow_neg, zpow_natCast, one_div]
    push_cast
    rfl
  rw [whole, le_roundWhole_iff, ht, hu, kept]
  split
  case isTrue hc =>
    have hx : (c : ℚ) * 10 ^ k = (c * 10 ^ (p.digits - digitCount c) : Nat) / (10 ^ (t + 2) : Nat) := by
      rw [show k = (p.digits - digitCount c : Nat) + -(t + 2 : Nat) by omega, zpow_add₀ h10, hu, zpow_natCast]
      push_cast
      ring
    simp only
    rw [hx]
    exact le_add_half_iff hpos (by omega)
  case isFalse hc =>
    have hx : (c : ℚ) * 10 ^ k = c / ((10 ^ (digitCount c - p.digits) : Nat) * (10 ^ (t + 2) : Nat)) := by
      rw [show k = -(digitCount c - p.digits : Nat) + -(t + 2 : Nat) by omega, zpow_add₀ h10, hu, zpow_neg,
        zpow_natCast]
      push_cast
      field_simp
    rw [shorten_value hp (by omega), hx, show k + (digitCount c - p.digits : Nat) = -(t + 2 : Nat) by omega, hu,
      mul_one_div]
    exact divHalfEven_reaches_iff (Nat.pow_pos (by decide)) hpos h4

-- One in the place of the last digit of a number that is kept.
def unit (p : Precision) (x : ℚ) : ℚ :=
  10 ^ (Int.log 10 |x| + 1 - p.digits)

theorem unit_pos (p : Precision) (x : ℚ) : 0 < p.unit x :=
  zpow_pos (by decide) _

-- A number lies below a half, but by no more than half a unit of its last digit kept.
def JustBelowHalf (p : Precision) (x : ℚ) : Prop :=
  (1 - p.unit x) / 2 ≤ Int.fract |x| ∧ Int.fract |x| < 1 / 2

theorem magnitude_pos (hc : 0 < c) : (0 : ℚ) < c * 10 ^ k :=
  mul_pos (by exact_mod_cast hc) (zpow_pos (by decide) k)

theorem log_eq (hc : 0 < c) : Int.log 10 ((c : ℚ) * 10 ^ k) = digitCount c + k - 1 := by
  have hpos : (0 : ℚ) < 10 ^ k := zpow_pos (by decide) k
  have h10 : (10 : ℚ) ≠ 0 := by decide
  have hx : (0 : ℚ) < c * 10 ^ k := magnitude_pos hc
  have hd := digitCount_pos c
  have hlo : (10 : ℚ) ^ (digitCount c - 1 : Nat) ≤ c := by
    exact_mod_cast (pow_le_iff hc).mpr (by omega)
  have hhi : (c : ℚ) < 10 ^ digitCount c := by
    exact_mod_cast lt_pow_digitCount c
  refine le_antisymm (Int.lt_add_one_iff.mp ?_) ?_
  · refine (Int.lt_zpow_iff_log_lt (by decide) hx).mp ?_
    rw [Int.sub_add_cancel, Nat.cast_ofNat, zpow_add₀ h10, zpow_natCast]
    exact mul_lt_mul_of_pos_right hhi hpos
  · refine (Int.zpow_le_iff_le_log (by decide) hx).mp ?_
    rw [Nat.cast_ofNat, show (digitCount c + k - 1 : Int) = (digitCount c - 1 : Nat) + k by omega, zpow_add₀ h10,
      zpow_natCast]
    exact mul_le_mul_of_nonneg_right hlo hpos.le

theorem whole_eq_floor (hp : p.Usable) (hc : 0 < c) (hk : digitCount c + k + 2 ≤ p.digits) :
    (p.whole c k : ℤ) = ⌊(c : ℚ) * 10 ^ k + (1 + p.unit (c * 10 ^ k)) / 2⌋ := by
  have hx : (0 : ℚ) < c * 10 ^ k := magnitude_pos hc
  have hu : p.unit (c * 10 ^ k) = 10 ^ (digitCount c + k - p.digits : Int) := by
    rw [unit, abs_of_pos hx, log_eq hc, Int.sub_add_cancel]
  have hpos : (0 : ℚ) < 10 ^ (digitCount c + k - p.digits : Int) := zpow_pos (by decide) _
  have h {a : Nat} := le_whole_iff (a := a) hp hk
  rw [hu, eq_comm, Int.floor_eq_iff]
  refine ⟨by exact_mod_cast h.mp (Nat.le_refl _), ?_⟩
  have := mt h.mpr (Nat.not_le.mpr (Nat.lt_succ_self (p.whole c k)))
  push_cast at this ⊢
  linarith

-- The whole number of a positive number is the nearest one, or the next one if it lies just below a half.
theorem whole_eq_round (hp : p.Usable) (hc : 0 < c) (hk : digitCount c + k + 2 ≤ p.digits) :
    let y : ℚ := c * 10 ^ k
    (¬p.JustBelowHalf y → (p.whole c k : ℤ) = round y) ∧ (p.JustBelowHalf y → (p.whole c k : ℤ) = round y + 1) := by
  intro y
  have hy : 0 < y := magnitude_pos hc
  have hu : p.unit y ≤ 1 := by
    rw [unit, abs_of_pos hy, log_eq hc]
    exact zpow_le_one_of_nonpos₀ (by decide) (by omega)
  rw [whole_eq_floor hp hc hk, floor_eq_round (p.unit_pos y) hu, JustBelowHalf, abs_of_pos hy]
  exact ⟨fun h => if_neg h, fun h => if_pos h⟩

end Precision

theorem toRat_mul_pow (negative : Bool) (c : Nat) (e : Int) (places : Nat) :
    toRat (.finite negative c e) * 10 ^ places = toRat (.finite negative c (e + places)) := by
  simp only [toRat]
  rw [zpow_add₀ (by decide : (10 : ℚ) ≠ 0), zpow_natCast, mul_assoc]

section Signs

variable {p : Precision} {y : ℚ}

theorem nearest_of_pos (hy : 0 < y) : nearest y = round y :=
  if_neg hy.le.not_gt

theorem nearest_neg (hy : 0 < y) : nearest (-y) = -round y := by
  rw [nearest, if_pos (neg_lt_zero.mpr hy), neg_neg]

theorem justBelowHalf_neg : p.JustBelowHalf (-y) ↔ p.JustBelowHalf y := by
  simp only [Precision.JustBelowHalf, Precision.unit, abs_neg]

theorem not_justBelowHalf_zero (hd : 1 < p.digits) : ¬p.JustBelowHalf 0 := by
  have hu : p.unit 0 < 1 := by
    rw [Precision.unit, abs_zero, Int.log_zero_right]
    exact zpow_lt_one_of_neg₀ (by decide) (by omega)
  rintro ⟨h, _⟩
  rw [abs_zero, Int.fract_zero] at h
  linarith

-- What a number comes to if there is room for two places more: the nearest whole number, or the next one if it lies
-- just below a half.
theorem signed_whole (hp : p.Usable) (hd : 1 < p.digits) (negative : Bool) {c : Nat} {k : Int}
    (hk : 0 < c → digitCount c + k + 2 ≤ p.digits) :
    let x := toRat (.finite negative c k)
    (¬p.JustBelowHalf x → signed negative (p.whole c k) = nearest x) ∧
      (p.JustBelowHalf x → signed negative (p.whole c k) = nearest x + if x < 0 then -1 else 1) := by
  intro x
  by_cases hc : 0 < c
  case neg =>
    obtain rfl : c = 0 := by omega
    have hx : x = 0 := by simp [x, toRat]
    rw [hx, whole_zero hp]
    exact ⟨fun _ => by cases negative <;> simp [signed, nearest], fun h => absurd h (not_justBelowHalf_zero hd)⟩
  case pos =>
    have hy : (0 : ℚ) < c * 10 ^ k := Precision.magnitude_pos hc
    obtain ⟨hn, hj⟩ := Precision.whole_eq_round hp hc (hk hc)
    cases negative
    case false =>
      have hx : x = c * 10 ^ k := by simp [x, toRat]
      rw [hx, nearest_of_pos hy, if_neg hy.le.not_gt]
      exact ⟨hn, hj⟩
    case true =>
      have hx : x = -(c * 10 ^ k) := by simp [x, toRat]
      rw [hx, justBelowHalf_neg, nearest_neg hy, if_pos (neg_lt_zero.mpr hy)]
      exact ⟨fun h => by rw [signed, if_pos rfl, hn h], fun h => by rw [signed, if_pos rfl, hj h, neg_add]⟩

end Signs

end Decimal
end Copybook
