import Copybook.Decimal.Binary64

/-!
The fewest digits that tell a binary floating-point number from all others, and the text made of them.
-/

namespace Copybook.Binary64

-- The magnitude nearest to a decimal one, if it is not too great.
def nearestDecimal (coefficient : Nat) (exponent : Int) : Option Magnitude :=
  nearest (coefficient * 10 ^ exponent.toNat) (10 ^ (-exponent).toNat)

-- The decimal with its last `dropped` digits left out or rounded up, whichever of the two is read as the
-- same binary number; of two the nearer, and of two as near the even one.
def shortened? (coefficient : Nat) (exponent : Int) (dropped : Nat) : Option (Nat × Int) :=
  let unit := 10 ^ dropped
  let low := coefficient / unit
  let rest := coefficient % unit
  let readsBack (c : Nat) : Bool :=
    nearestDecimal c (exponent + dropped) == nearestDecimal coefficient exponent
  let lowIsNearer := 2 * rest < unit || (2 * rest == unit && low % 2 == 0)
  let chosen :=
    match readsBack low, readsBack (low + 1) with
    | true, true => some (if lowIsNearer then low else low + 1)
    | true, false => some low
    | false, true => some (low + 1)
    | false, false => none
  chosen.map fun c => (c, exponent + dropped)

-- The fewest digits that are read as the binary number that this decimal exactly is. Seventeen are always
-- enough.
def shortest (coefficient : Nat) (exponent : Int) : Nat × Int :=
  let count := Text.digitCount coefficient
  let found := (List.range' 1 17).findSome? fun kept =>
    if kept < count then shortened? coefficient exponent (count - kept) else none
  let (c, e) := found.getD (coefficient, exponent)
  Decimal.reduce c e

-- At least two digits, with a sign.
def exponentText (e : Int) : Text :=
  (if e < 0 then '-' else '+') :: Text.padLeft '0' 2 (Text.ofNat e.natAbs)

-- Digits with a point among them where the first one lies at most sixteen places before it and at most
-- four places after it, else with an exponent.
def place (digits : Text) (exponent : Int) : Text :=
  let point := exponent + digits.length
  if -4 < point ∧ point ≤ 16 then
    if 0 ≤ exponent then digits ++ List.replicate exponent.toNat '0' ++ ".0".toList
    else Decimal.positional digits exponent
  else
    digits.take 1 ++ (if digits.length ≤ 1 then [] else '.' :: digits.drop 1) ++
      'e' :: exponentText (point - 1)

-- The text of the binary number nearest to a decimal one.
def toText (d : Decimal) : Text :=
  match exact d with
  | .finite negative coefficient exponent =>
    let (c, e) := shortest coefficient exponent
    Decimal.sign negative ++ if coefficient = 0 then "0.0".toList else place (Text.ofNat c) e
  | .infinity negative => Decimal.sign negative ++ "inf".toList
  | .nan .. => "nan".toList

end Copybook.Binary64
