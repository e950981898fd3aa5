import Copybook.Json.Reader
import Copybook.Json.Writer
import Copybook.Proofs.Except
import Copybook.Proofs.Layout.Path
import Copybook.Proofs.Text.Digits
import Mathlib.Tactic.IntervalCases

/-!
Texts and integers are read from JSON as they were written. A text ends at its closing mark; an integer ends where no
digit, no point and no exponent follows.
-/

namespace Copybook
namespace Bytes

theorem hexValue?_hexDigit (n : Nat) : hexValue? (hexDigit n) = some (n % 16) := by
  have h : ∀ k < 16, hexValue? (Nat.digitChar k) = some k := by decide
  exact h _ (Nat.mod_lt _ (by decide))

end Bytes

theorem Text.ofNat_cons_of_pos {n : Nat} (h : 0 < n) : ∃ c s, ofNat n = c :: s ∧ c ≠ '0' := by
  induction n using Nat.strongRecOn
  case ind n hi =>
  by_cases hn : n < 10
  · have hd : ∀ d < 10, 0 < d → Nat.digitChar d ≠ '0' := by decide
    exact ⟨_, _, ofNat_of_lt hn, hd n hn h⟩
  · obtain ⟨c, s, he, hc⟩ := hi (n / 10) (by omega) (by omega)
    exact ⟨c, s ++ [Nat.digitChar (n % 10)], by rw [ofNat_of_le (Nat.not_lt.mp hn), he, List.cons_append], hc⟩

theorem Text.ofInt_cons (i : Int) : ∃ c s, ofInt i = c :: s ∧ (c = '-' ∨ ∃ d < 10, c = Nat.digitChar d) := by
  unfold ofInt
  split
  case isTrue => exact ⟨_, _, rfl, .inl rfl⟩
  case isFalse =>
    obtain ⟨c, s, hs⟩ := ofNat_cons i.natAbs
    exact ⟨c, s, hs, .inr (digit_of_mem_ofNat (hs ▸ List.mem_cons_self))⟩

theorem isAsciiDigit_of_mem_ofNat {n : Nat} {c : Char} (h : c ∈ Text.ofNat n) : isAsciiDigit c := by
  obtain ⟨d, hd, rfl⟩ := Text.digit_of_mem_ofNat h
  have hs : ∀ d < 10, isAsciiDigit (Nat.digitChar d) := by decide
  exact hs d hd

theorem ofNat_append_ne_minus (n : Nat) (s t : Text) : Text.ofNat n ++ s ≠ '-' :: t := by
  obtain ⟨c, d, hd⟩ := Text.ofNat_cons n
  intro h
  rw [hd] at h
  cases h
  exact absurd (isAsciiDigit_of_mem_ofNat (hd ▸ List.mem_cons_self)) (by decide)

namespace Json

variable {s t rest : Text}

theorem unit?_hexDigits {n : Nat} (h : n < 0x10000) :
    ∃ a b c d, Bytes.hexDigits 4 n = [a, b, c, d] ∧ unit? a b c d = some n := by
  refine ⟨_, _, _, _, rfl, ?_⟩
  simp only [unit?, Bytes.hexValue?_hexDigit, Option.bind_eq_bind, Option.bind_some, Option.pure_def, Option.some.injEq]
  omega

theorem stringFrom_marked {c : Char} (e : Char) (he : e ≠ 'u') (hc : escaped? e = some c) (t : Text) :
    stringFrom none ('\\' :: e :: t) = (stringFrom none t).map (Prod.map (c :: ·) id) := by
  rw [stringFrom, hc]
  · cases stringFrom none t <;> rfl
  · simp [he]

theorem stringFrom_control {c : Char} (h : c.toNat < 32) (t : Text) :
    stringFrom none ('\\' :: 'u' :: (Bytes.hexDigits 4 c.toNat ++ t)) =
      (stringFrom none t).map (Prod.map (c :: ·) id) := by
  obtain ⟨a, b, d, e, hd, hu⟩ := unit?_hexDigits (n := c.toNat) (by omega)
  have ho : ofUnit none c.toNat = ([c], none) := by
    have hh : Utf16.isHigh c.toNat = false := by simp [Utf16.isHigh]; omega
    have hl : Utf16.isLow c.toNat = false := by simp [Utf16.isLow]; omega
    simp [ofUnit, ofUnit.alone, hh, hl]
  rw [hd]
  simp only [List.cons_append, List.nil_append]
  rw [stringFrom, hu]
  simp only [Option.bind_eq_bind, Option.bind_some, ho]
  cases stringFrom none t <;> rfl

theorem stringFrom_plain {c : Char} (hq : c ≠ '"') (hm : c ≠ '\\') (h : 32 ≤ c.toNat) (t : Text) :
    stringFrom none (c :: t) = (stringFrom none t).map (Prod.map (c :: ·) id) := by
  rw [stringFrom, if_neg (Nat.not_lt.mpr h)]
  · cases stringFrom none t <;> rfl
  · simp [hq]
  · simp [hm]
  · simp [hm]

theorem stringFrom_escapeChar (c : Char) (t : Text) :
    stringFrom none (escapeChar c ++ t) = (stringFrom none t).map (Prod.map (c :: ·) id) := by
  unfold escapeChar
  split
  case isTrue h => subst h; exact stringFrom_marked '"' (by decide) rfl t
  case isFalse hq =>
  split
  case isTrue h => subst h; exact stringFrom_marked '\\' (by decide) rfl t
  case isFalse hm =>
  split
  case isTrue h => subst h; exact stringFrom_marked 'n' (by decide) rfl t
  split
  case isTrue h => subst h; exact stringFrom_marked 'r' (by decide) rfl t
  split
  case isTrue h => subst h; exact stringFrom_marked 't' (by decide) rfl t
  split
  case isTrue h => exact stringFrom_marked 'b' (by decide) (congrArg some (h ▸ Char.ofNat_toNat c)) t
  split
  case isTrue h => exact stringFrom_marked 'f' (by decide) (congrArg some (h ▸ Char.ofNat_toNat c)) t
  split
  case isTrue h => exact stringFrom_control h t
  case isFalse h => exact stringFrom_plain hq hm (Nat.not_lt.mp h) t

theorem stringFrom_quote (s rest : Text) : stringFrom none (s.flatMap escapeChar ++ '"' :: rest) = some (s, rest) := by
  induction s
  case nil => rfl
  case cons c s hi => rw [List.flatMap_cons, List.append_assoc, stringFrom_escapeChar, hi]; rfl

-- A number ends before the text.
def EndsNumber (rest : Text) : Prop :=
  ∀ c ∈ rest.head?, isAsciiDigit c = false ∧ c ≠ '.' ∧ c ≠ 'e' ∧ c ≠ 'E'

theorem EndsNumber.takeWhile (h : EndsNumber rest) : rest.takeWhile isAsciiDigit = [] := by
  cases rest
  case nil => rfl
  case cons c rest => rw [List.takeWhile_cons, (h c rfl).left, if_neg Bool.false_ne_true]

theorem EndsNumber.dropWhile (h : EndsNumber rest) : rest.dropWhile isAsciiDigit = rest := by
  have hr := rest.takeWhile_append_dropWhile (p := isAsciiDigit)
  rwa [h.takeWhile, List.nil_append] at hr

theorem whole?_ofNat (h : EndsNumber rest) (n : Nat) : whole? (Text.ofNat n ++ rest) = some (Text.ofNat n, rest) := by
  rcases Nat.eq_zero_or_pos n with rfl | hn
  · rfl
  obtain ⟨c, s, hs, hc⟩ := Text.ofNat_cons_of_pos hn
  have hd : ∀ d ∈ Text.ofNat n, isAsciiDigit d := fun _ => isAsciiDigit_of_mem_ofNat
  have ht : (Text.ofNat n ++ rest).takeWhile isAsciiDigit = Text.ofNat n := by
    rw [List.takeWhile_append_of_pos hd, h.takeWhile, List.append_nil]
  have hr : (Text.ofNat n ++ rest).dropWhile isAsciiDigit = rest := by
    rw [List.dropWhile_append_of_pos hd, h.dropWhile]
  rw [whole?, ht, hr]
  · simp [hs]
  · intro s' h'
    rw [hs] at h'
    simp [hc] at h'

theorem fraction_eq (h : EndsNumber rest) : fraction rest = ([], rest) := by
  unfold fraction
  split
  case h_1 r => exact absurd rfl (h '.' rfl).right.left
  case h_2 => rfl

theorem exponent_eq (h : EndsNumber rest) : exponent rest = ([], rest) := by
  unfold exponent
  split
  case h_1 c r => rw [if_neg (not_or.mpr (h c rfl).right.right)]
  case h_2 => rfl

theorem isWritable_iff {i : Int} : isWritable i ↔ -(2 ^ 63) ≤ i ∧ i < 2 ^ 64 := by
  simp only [isWritable, Bool.and_eq_true, decide_eq_true_eq]

theorem natAbs_lt_of_isWritable {i : Int} (h : isWritable i) : i.natAbs < 10 ^ maxDigits := by
  rw [isWritable_iff] at h
  have hn : i.natAbs < 10 ^ 20 := by omega
  exact Nat.lt_of_lt_of_le hn (Nat.pow_le_pow_right (by decide) (by decide))

theorem number_ofInt (h : EndsNumber rest) {i : Int} (hi : isWritable i) :
    number (Text.ofInt i ++ rest) = .ok (.int i, rest) := by
  have hw := whole?_ofNat h i.natAbs
  have hr : (Text.readNat (Text.ofNat i.natAbs)).mapError Fault.digits = .ok i.natAbs :=
    mapError_eq_ok_iff.mpr (Text.readNat_ofNat (natAbs_lt_of_isWritable hi))
  have hs := Text.signed_natAbs i
  unfold number
  by_cases hl : i < 0
  case pos =>
    rw [decide_eq_true hl] at hs
    simp only [Text.ofInt, if_pos hl, List.cons_append, hw, orMalformed, ok_bind, fraction_eq h, exponent_eq h,
      List.isEmpty_nil, Bool.and_true, if_true, hr, hs]
    rfl
  case neg =>
    rw [decide_eq_false hl] at hs
    rw [Text.ofInt, if_neg hl]
    split
    case h_1 he =>
    split at he
    case h_1 hm => exact absurd hm (ofNat_append_ne_minus _ _ _)
    case h_2 =>
      cases he
      simp only [hw, orMalformed, ok_bind, fraction_eq h, exponent_eq h, List.isEmpty_nil, Bool.and_true, if_true, hr,
        hs]
      rfl

theorem word?_ofInt (i : Int) : word? (Text.ofInt i ++ rest) = none := by
  obtain ⟨c, s, hs⟩ := Text.ofNat_cons i.natAbs
  obtain ⟨d, hd, rfl⟩ := Text.digit_of_mem_ofNat (hs ▸ List.mem_cons_self)
  unfold Text.ofInt
  rw [hs]
  split <;> interval_cases d <;> rfl

end Json
end Copybook
