import Copybook.Fault
import Copybook.Picture

/-!
The integer a numeric field stores: the value times ten to the number of its decimal places, rounded to a
whole number, a half going away from zero.
-/

namespace Copybook.NumberShape

def precision (shape : NumberShape) : Decimal.Precision :=
  .ofDigits shape.digits

-- The number a value stands for. Blank text is zero.
def number (v : Value) : Except FieldFault Decimal :=
  match v with
  | .decimal d => .ok d
  | .int i => .ok (.ofInt i)
  | .float digits => orNotNumeric (Decimal.ofText? digits)
  | .text s =>
    if (Text.strip s).isEmpty then .ok (.ofInt 0) else orNotNumeric (Decimal.ofText? (Text.strip s))
  | _ => .error (.notNumeric v)
where
  orNotNumeric : Option Decimal → Except FieldFault Decimal
    | some d => .ok d
    | none => .error (.notNumeric v)

-- The number as a whole number of units of the last decimal place.
def units (shape : NumberShape) (d : Decimal) : Except Decimal.Fault Int := do
  let scaled ← d.scale shape.precision shape.fracDigits
  scaled.toInt shape.precision

-- The integer to store for a value; null is zero.
def stored (shape : NumberShape) (v : Value) : Except FieldFault Int := do
  if let .null := v then return 0
  let d ← number v
  if !d.isFinite then throw (.notFinite v)
  let n ← (shape.units d).mapError .arithmetic
  if n < 0 ∧ !shape.signed then throw (.negative v)
  if 10 ^ shape.digits ≤ n.natAbs then throw (.tooManyDigits v shape.intDigits shape.fracDigits)
  return n

-- The value of a stored integer: a whole number if there are no decimal places, else one with exactly
-- those places.
def value (shape : NumberShape) (n : Int) : Except FieldFault Value :=
  if shape.fracDigits = 0 then .ok (.int n)
  else ((Decimal.ofInt n).scale shape.precision (-(shape.fracDigits : Int))).map Value.decimal
    |>.mapError .arithmetic

end Copybook.NumberShape
