import Copybook.Decimal.Basic
import Copybook.Proofs.Text.Digits
import Copybook.Proofs.Text.Trim

/-!
The text of a decimal number is read as the number, with its sign, its digits and its exponent as they were, as long as
there is such a number. Positional and scientific notation both show all digits of the coefficient, and where the point
stands among them.
-/

namespace Copybook
namespace Decimal

open Text (digitCount)

variable {s digits whole fraction rest : Text} {c : Char} {n : Nat} {e : Int} {negative signaling : Bool}

-- The numbers there are: no first digit stands higher, and no last digit lower, than can be written.
def IsWritten : Decimal → Prop
  | finite _ coefficient exponent => minWritten ≤ exponent ∧ adjusted coefficient exponent ≤ maxWritten
  | _ => True

section Characters

theorem isAsciiDigit_of_mem_ofNat (h : c ∈ Text.ofNat n) : isAsciiDigit c := by
  obtain ⟨d, hd, rfl⟩ := Text.digit_of_mem_ofNat h
  have all : ∀ d < 10, isAsciiDigit (Nat.digitChar d) := by decide
  exact all d hd

end Characters

section Finite

theorem toNat_zeros (k : Nat) (s : Text) : Text.toNat (List.replicate k '0' ++ s) = Text.toNat s := by
  have hz : digitValue? '0' = some 0 := by decide
  induction k
  case zero => rfl
  case succ k hi => rw [List.replicate_succ, List.cons_append, Text.toNat, List.foldl_cons, hz]; exact hi

variable (n)

end Finite

-- Whether a text begins with a digit.
def Numeric (s : Text) : Prop :=
  ∃ c t, s = c :: t ∧ isAsciiDigit c

theorem Numeric.append (h : Numeric s) (t : Text) : Numeric (s ++ t) := by
  obtain ⟨c, s, rfl, hc⟩ := h
  exact ⟨c, s ++ t, rfl, hc⟩

theorem Numeric.take {k : Nat} (h : Numeric s) (hk : 0 < k) : Numeric (s.take k) := by
  obtain ⟨c, s, rfl, hc⟩ := h
  exact ⟨c, s.take (k - 1), List.take_cons hk, hc⟩

end Decimal
end Copybook
