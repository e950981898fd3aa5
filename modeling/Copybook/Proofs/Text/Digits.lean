import Mathlib
import Copybook.Text.Digits

/-!
The decimal digits of a number: how many there are, and the number that they come back to.
-/

namespace Copybook.Text

theorem digitCount_le_iff {n k : Nat} (h : 0 < k) : digitCount n ≤ k ↔ n < 10 ^ k :=
  Nat.length_toDigits_le_iff (by decide) h

theorem digitCount_pos (n : Nat) : 0 < digitCount n :=
  Nat.length_toDigits_pos

theorem lt_pow_digitCount (n : Nat) : n < 10 ^ digitCount n :=
  (digitCount_le_iff (digitCount_pos n)).mp <| Nat.le_refl _

-- Zeros at the end of a number are digits of it.
theorem digitCount_mul_pow {n : Nat} (h : 0 < n) (k : Nat) :
    digitCount (n * 10 ^ k) = digitCount n + k := by
  have hp : 0 < 10 ^ k := Nat.pow_pos (by decide)
  have hn := digitCount_pos n
  have hle : digitCount (n * 10 ^ k) ≤ digitCount n + k := by
    rw [digitCount_le_iff (by omega), Nat.pow_add]
    exact Nat.mul_lt_mul_of_pos_right (lt_pow_digitCount n) hp
  have hlt := lt_pow_digitCount (n * 10 ^ k)
  have hk : k < digitCount (n * 10 ^ k) := by
    refine (Nat.pow_lt_pow_iff_right (by decide : 1 < 10)).mp ?_
    exact Nat.lt_of_le_of_lt (Nat.le_mul_of_pos_left _ h) hlt
  have ⟨j, hj⟩ : ∃ j, digitCount (n * 10 ^ k) = j + 1 + k := ⟨digitCount (n * 10 ^ k) - k - 1, by omega⟩
  rw [hj, Nat.pow_add] at hlt
  have := (digitCount_le_iff (by omega)).mpr <| Nat.lt_of_mul_lt_mul_right hlt
  omega

-- The lowest `width` digits of a number, the last one of it last.
def lowDigits : (width : Nat) → Nat → List Nat
  | 0, _ => []
  | width + 1, n => lowDigits width (n / 10) ++ [n % 10]

-- The number that has these digits.
def ofDigits (digits : List Nat) : Nat :=
  digits.foldl (fun n d => n * 10 + d) 0

@[simp]
theorem length_lowDigits (width n : Nat) : (lowDigits width n).length = width := by
  induction width generalizing n
  case zero => rfl
  case succ width hi => simp [lowDigits, hi]

theorem lt_of_mem_lowDigits {width n d : Nat} (h : d ∈ lowDigits width n) : d < 10 := by
  induction width generalizing n <;> simp [lowDigits] at h
  case succ width hi =>
    cases h
    case inl h => exact hi h
    case inr h => omega

theorem ofDigits_concat (digits : List Nat) (d : Nat) : ofDigits (digits ++ [d]) = ofDigits digits * 10 + d := by
  simp [ofDigits]

theorem ofDigits_lowDigits {width n : Nat} (h : n < 10 ^ width) : ofDigits (lowDigits width n) = n := by
  induction width generalizing n
  case zero => simp_all [lowDigits, ofDigits]
  case succ width hi =>
    have : n / 10 < 10 ^ width := by
      rw [Nat.pow_succ] at h
      omega
    rw [lowDigits, ofDigits_concat, hi this]
    omega

theorem ofNat_of_lt {n : Nat} (h : n < 10) : ofNat n = [Nat.digitChar n] :=
  Nat.toDigits_of_lt_base h

theorem ofNat_of_le {n : Nat} (h : 10 ≤ n) : ofNat n = ofNat (n / 10) ++ [Nat.digitChar (n % 10)] :=
  Nat.toDigits_of_base_le (by decide) h

-- Filled with zeros, the text of a number is that of its lowest digits.
theorem padLeft_ofNat_of_pos {width n : Nat} (hw : 0 < width) (h : n < 10 ^ width) :
    padLeft '0' width (ofNat n) = (lowDigits width n).map Nat.digitChar := by
  induction width generalizing n
  case zero => contradiction
  case succ width hi =>
    have hq : n / 10 < 10 ^ width := by
      rw [Nat.pow_succ] at h
      omega
    rw [lowDigits, List.map_append, List.map_singleton]
    cases width
    case zero =>
      have hn : n < 10 := by simpa using h
      rw [ofNat_of_lt hn, Nat.mod_eq_of_lt hn]
      rfl
    case succ width =>
      rw [←hi (by omega) hq]
      by_cases hn : n < 10
      case pos =>
        rw [ofNat_of_lt hn, Nat.mod_eq_of_lt hn, Nat.div_eq_of_lt hn, ofNat_of_lt (by decide : 0 < 10)]
        simp [padLeft, List.replicate_succ', Nat.digitChar]
      case neg =>
        rw [ofNat_of_le (by omega)]
        simp [padLeft, Nat.add_sub_add_right]

-- Even where there is no room for digits, zero has one.
theorem padLeft_ofNat {width n : Nat} (h : n < 10 ^ width) :
    padLeft '0' width (ofNat n) = (lowDigits (max 1 width) n).map Nat.digitChar := by
  by_cases hw : 0 < width
  case pos => rw [padLeft_ofNat_of_pos hw h, Nat.max_eq_right hw]
  case neg =>
    have hw : width = 0 := by omega
    have hn : n = 0 := by simpa [hw] using h
    rw [hw, hn]
    rfl

theorem digitValues_padLeft {width n : Nat} (hw : 0 < width) (h : n < 10 ^ width) :
    (padLeft '0' width (ofNat n)).map (fun c => (digitValue? c).getD 0) = lowDigits width n := by
  rw [padLeft_ofNat_of_pos hw h, List.map_map]
  refine (List.map_congr_left fun d hd => ?_).trans <| List.map_id _
  simp [digitValue?_digitChar (lt_of_mem_lowDigits hd)]

theorem digit_of_mem_ofNat {c : Char} {n : Nat} (h : c ∈ ofNat n) : ∃ d < 10, c = Nat.digitChar d := by
  induction n using Nat.strongRecOn
  case ind n hi =>
    by_cases hn : n < 10
    case pos => exact ⟨n, hn, by simpa [ofNat_of_lt hn] using h⟩
    case neg =>
      rw [ofNat_of_le (by omega), List.mem_append, List.mem_singleton] at h
      cases h
      case inl h => exact hi _ (by omega) h
      case inr h => exact ⟨n % 10, Nat.mod_lt _ (by omega), h⟩

theorem isDecimalDigit_of_mem_ofNat {c : Char} {n : Nat} (h : c ∈ ofNat n) : isDecimalDigit c := by
  have ⟨d, hd, h⟩ := digit_of_mem_ofNat h
  rw [h, isDecimalDigit, digitValue?_digitChar hd]
  rfl

theorem ofNat_cons (n : Nat) : ∃ c s, ofNat n = c :: s := by
  cases h : ofNat n
  case nil => exact absurd h (List.ne_nil_of_length_pos (digitCount_pos n))
  case cons c s => exact ⟨c, s, rfl⟩

theorem toNat_lt (digits : Text) : toNat digits < 10 ^ digits.length := by
  induction digits using List.reverseRecOn
  case nil => decide
  case append_singleton digits c hi =>
    have hc : (digitValue? c).getD 0 < 10 := by
      cases h : digitValue? c
      case none => decide
      case some d => exact digitValue?_lt h
    rw [toNat_concat, List.length_append, List.length_singleton, Nat.pow_succ]
    omega

theorem readNat_eq_ok_iff {digits : Text} {n : Nat} :
    readNat digits = .ok n ↔ digits.length ≤ maxDigits ∧ n = toNat digits := by
  unfold readNat
  split
  case isTrue h => exact ⟨nofun, fun he => absurd h (Nat.not_lt.mpr he.left)⟩
  case isFalse h => exact ⟨fun he => ⟨Nat.not_lt.mp h, (Except.ok.inj he).symm⟩, fun he => he.right ▸ rfl⟩

theorem readNat_ofNat {n : Nat} (h : n < 10 ^ maxDigits) : readNat (ofNat n) = .ok n := by
  rw [readNat_eq_ok ((digitCount_le_iff (by decide)).mpr h), toNat_ofNat]

theorem lt_of_readNat {digits : Text} {n : Nat} (h : readNat digits = .ok n) : n < 10 ^ maxDigits := by
  obtain ⟨hl, rfl⟩ := readNat_eq_ok_iff.mp h
  exact (toNat_lt digits).trans_le (Nat.pow_le_pow_right (by decide) hl)

theorem isWritable_iff {k n : Nat} : isWritable (some k) n ↔ n < 10 ^ k := by
  simp [isWritable]

theorem writeNat_eq_ok_iff {n : Nat} {limit : Option Nat} {t : Text} :
    writeNat n limit = .ok t ↔ isWritable limit n ∧ t = ofNat n := by
  unfold writeNat
  split
  case isTrue h => exact ⟨fun he => ⟨h, (Except.ok.inj he).symm⟩, fun he => he.right ▸ rfl⟩
  case isFalse h => exact ⟨nofun, fun he => absurd he.left h⟩

end Copybook.Text
