import Copybook.Decimal.Basic

/-!
Arithmetic of bounded precision: a result keeps a limited number of digits, the digits past them being
rounded, and its first digit may not lie too high.
-/

namespace Copybook

namespace Decimal

-- The quotient rounded to the nearest number, a tie going to the even one.
def divHalfEven (n d : Nat) : Nat :=
  let q := n / d
  let r := n % d
  if 2 * r < d then q
  else if d < 2 * r then q + 1
  else if q % 2 = 0 then q else q + 1

-- The quotient rounded to the nearest number, a tie going up.
def divHalfUp (n d : Nat) : Nat :=
  (2 * n + d) / (2 * d)

-- How an operation fails.
inductive Fault
  | overflow
  | invalidOperation
  deriving DecidableEq, Repr

-- How many digits a result keeps, and between which exponents its first digit may lie.
structure Precision where
  digits : Nat
  minExponent : Int
  maxExponent : Int
  deriving DecidableEq, Repr

namespace Precision

-- The precision for numbers of `digits` digits: at least twelve more than those.
def ofDigits (digits : Nat) : Precision :=
  ⟨max 28 (digits + 12), -999999, 999999⟩

-- The least exponent of a last digit.
def floor (p : Precision) : Int :=
  p.minExponent - (p.digits - 1)

-- A number with an exponent below the floor, rounded to the floor.
def raise (p : Precision) (coefficient : Nat) (exponent : Int) : Nat :=
  let places := (p.floor - exponent).toNat
  -- The quotient is below one half, and the power need not be computed.
  if Text.digitCount coefficient < places then 0 else divHalfEven coefficient (10 ^ places)

-- A coefficient of too many digits, rounded to as many as are kept.
def shorten (p : Precision) (coefficient : Nat) (exponent : Int) : Nat × Int :=
  let places := Text.digitCount coefficient - p.digits
  let rounded := divHalfEven coefficient (10 ^ places)
  -- Nines that are rounded up give one digit more, a zero.
  if p.digits < Text.digitCount rounded then (rounded / 10, exponent + places + 1)
  else (rounded, exponent + places)

-- The number as it is kept.
def keep (p : Precision) (negative : Bool) (coefficient : Nat) (exponent : Int) :
    Except Fault Decimal :=
  if coefficient = 0 then
    .ok (.finite negative 0 (max p.floor (min exponent p.maxExponent)))
  else if p.maxExponent < adjusted coefficient exponent then .error .overflow
  else if exponent < p.floor ∧ adjusted coefficient exponent < p.minExponent then
    .ok (.finite negative (p.raise coefficient exponent) p.floor)
  else if Text.digitCount coefficient ≤ p.digits then .ok (.finite negative coefficient exponent)
  else
    let (coefficient, exponent) := p.shorten coefficient exponent
    if p.maxExponent < adjusted coefficient exponent then .error .overflow
    else .ok (.finite negative coefficient exponent)

end Precision

-- The number times ten to `places`.
def scale (p : Precision) (d : Decimal) (places : Int) : Except Fault Decimal :=
  match d with
  | .finite negative coefficient exponent => p.keep negative coefficient (exponent + places)
  | d => .ok d

-- The magnitude rounded to a whole number, a half going up. It fails if that needs more digits than are
-- kept, or if the number is not finite.
def wholeMagnitude (p : Precision) : Decimal → Except Fault Nat
  | .finite _ coefficient exponent =>
    if coefficient = 0 then .ok 0
    else if (p.digits : Int) < Text.digitCount coefficient + exponent then .error .invalidOperation
    else
      let whole :=
        if 0 ≤ exponent then coefficient * 10 ^ exponent.toNat
        -- The number is below one tenth.
        else if exponent + Text.digitCount coefficient < 0 then 0
        else divHalfUp coefficient (10 ^ (-exponent).toNat)
      if p.maxExponent < Text.digitCount whole - 1 then .error .invalidOperation else .ok whole
  | _ => .error .invalidOperation

-- The number rounded to a whole one, a half going away from zero.
def toInt (p : Precision) (d : Decimal) : Except Fault Int :=
  (wholeMagnitude p d).map fun whole =>
    match d with
    | .finite true .. => -(whole : Int)
    | _ => whole

end Decimal

end Copybook
