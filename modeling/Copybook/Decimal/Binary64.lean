import Copybook.Decimal.Basic

/-!
The binary floating-point number nearest to a decimal one, and its exact value.
-/

namespace Copybook.Binary64

-- The value `significand · 2 ^ exponent`.
structure Magnitude where
  significand : Nat
  exponent : Int
  deriving DecidableEq, Repr

-- The quotient of two numbers, each first multiplied by two to an exponent if that is positive.
def shifted (num den : Nat) (exponent : Int) : Nat × Nat :=
  (num * 2 ^ (-exponent).toNat, den * 2 ^ exponent.toNat)

def roundAt (num den : Nat) (exponent : Int) : Nat :=
  let (n, d) := shifted num den exponent
  let q := n / d
  let r := n % d
  if 2 * r < d ∨ (2 * r = d ∧ q % 2 = 0) then q else q + 1

-- The nearest magnitude with 53 significant bits, fewer at the least exponent; a tie goes to the even
-- significand. `none` past the greatest one.
def nearest (num den : Nat) : Option Magnitude :=
  let guess : Int := (Nat.log2 num : Int) - Nat.log2 den - 53
  let fits (e : Int) : Bool := let (n, d) := shifted num den e; n / d < 2 ^ 53
  let e := max (-1074) (if fits guess then guess else if fits (guess + 1) then guess + 1 else guess + 2)
  let m := roundAt num den e
  if 2 ^ 1024 ≤ m * 2 ^ e.toNat ∧ 0 ≤ e then none
  else if m = 2 ^ 53 then some ⟨2 ^ 52, e + 1⟩
  else some ⟨m, e⟩

-- The binary number nearest to a decimal one, written as the decimal it exactly is.
def exact : Decimal → Decimal
  | .finite negative coefficient exponent =>
    if coefficient = 0 ∨ Decimal.adjusted coefficient exponent < -400 then .finite negative 0 0
    else if 400 < Decimal.adjusted coefficient exponent then .infinity negative
    else
      match nearest (coefficient * 10 ^ exponent.toNat) (10 ^ (-exponent).toNat) with
      | some m =>
        -- One half is five tenths.
        let places := (-m.exponent).toNat
        .finite negative (m.significand * 2 ^ m.exponent.toNat * 5 ^ places) (-places)
      | none => .infinity negative
  | d => d

end Copybook.Binary64
