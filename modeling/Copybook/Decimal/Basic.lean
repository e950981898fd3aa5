import Copybook.Text.Integer

/-!
Decimal numbers that remember how many digits they were written with: `1.50` and `1.5` are different
numbers of equal value. Their text form, and the forms of text that are read as one.
-/

namespace Copybook

-- A finite number is its coefficient times ten to its exponent; zero has a sign too.
inductive Decimal
  | finite (negative : Bool) (coefficient : Nat) (exponent : Int)
  | infinity (negative : Bool)
  | nan (negative signaling : Bool) (payload : Nat)
  deriving DecidableEq, Repr, Inhabited

namespace Decimal

def ofInt (i : Int) : Decimal :=
  .finite (decide (i < 0)) i.natAbs 0

def isFinite : Decimal → Bool
  | finite .. => true
  | _ => false

-- The exponent of the first digit.
def adjusted (coefficient : Nat) (exponent : Int) : Int :=
  exponent + Text.digitCount coefficient - 1

-- Digits with a point in their place, zeros standing before it as needed.
def positional (digits : Text) (exponent : Int) : Text :=
  let point := exponent + digits.length
  if exponent = 0 then digits
  else if point ≤ 0 then '0' :: '.' :: (List.replicate (-point).toNat '0' ++ digits)
  else digits.take point.toNat ++ '.' :: digits.drop point.toNat

-- One digit, a point and the other digits if there are any, then the exponent with its sign.
def scientific (digits : Text) (exponent : Int) : Text :=
  let shown := exponent + digits.length - 1
  digits.take 1 ++ (if digits.length ≤ 1 then [] else '.' :: digits.drop 1) ++
    'E' :: (if shown < 0 then '-' else '+') :: Text.ofNat shown.natAbs

def sign (negative : Bool) : Text :=
  if negative then ['-'] else []

-- Positional where the exponent is not positive and at most five zeros follow the point; else
-- scientific.
def toText : Decimal → Text
  | finite negative coefficient exponent =>
    let digits := Text.ofNat coefficient
    sign negative ++
      if exponent ≤ 0 ∧ -6 ≤ exponent + digits.length - 1 then positional digits exponent
      else scientific digits exponent
  | infinity negative => sign negative ++ "Infinity".toList
  | nan negative signaling payload =>
    sign negative ++ (if signaling then "sNaN".toList else "NaN".toList) ++
      if payload = 0 then [] else Text.ofNat payload

-- The coefficient without the zeros it ends with, and the exponent of its last digit then.
def reduce (coefficient : Nat) (exponent : Int) : Nat × Int :=
  if h : coefficient ≠ 0 ∧ coefficient % 10 = 0 then reduce (coefficient / 10) (exponent + 1)
  else (coefficient, exponent)
termination_by coefficient
decreasing_by omega

-- Whether two numbers have equal value. A NaN equals nothing.
def same : Decimal → Decimal → Bool
  | finite n c e, finite m d f =>
    if c = 0 ∨ d = 0 then c == d else n == m && reduce c e == reduce d f
  | infinity n, infinity m => n == m
  | _, _ => false

-- The greatest exponent of a first digit, and the least exponent of a last digit, that can be written.
def maxWritten : Int := 999999999999999999

def minWritten : Int := -1999999999999999997

-- A character of a number as ASCII. Digits of any script are as good as ASCII ones.
def plainChar? (c : Char) : Option Char :=
  if 0 < c.toNat ∧ c.toNat < 0x80 then some c
  else if isBlank c then some ' '
  else (digitValue? c).map Nat.digitChar

-- Digits with an optional point: all digits, and how many of them follow the point.
def takeDigits? (s : Text) : Option (Text × Nat × Text) :=
  let whole := s.takeWhile isAsciiDigit
  let rest := s.dropWhile isAsciiDigit
  let (fraction, rest) := match rest with
    | '.' :: r => (r.takeWhile isAsciiDigit, r.dropWhile isAsciiDigit)
    | _ => ([], rest)
  if whole.isEmpty && fraction.isEmpty then none
  else some (whole ++ fraction, fraction.length, rest)

-- The exponent that ends a number, zero if there is none.
def exponent? : Text → Option Int
  | [] => some 0
  | c :: s =>
    if c = 'e' ∨ c = 'E' then
      let (negative, digits) := Text.takeSign s
      if digits.isEmpty || !digits.all isAsciiDigit then none
      else some (if negative then -(Text.toNat digits : Int) else Text.toNat digits)
    else none

-- The coefficient and the exponent of an unsigned number, however great or small.
def unsigned? (s : Text) : Option (Nat × Int) := do
  let (digits, places, rest) ← takeDigits? s
  return (Text.toNat digits, (← exponent? rest) - places)

def finite? (negative : Bool) (s : Text) : Option Decimal := do
  let (coefficient, exponent) ← unsigned? s
  if minWritten ≤ exponent ∧ adjusted coefficient exponent ≤ maxWritten then
    return .finite negative coefficient exponent
  else none

-- What stands for no number: an infinity, or a NaN with an optional payload.
def special? (negative : Bool) (s : Text) : Option Decimal :=
  let word := (s.takeWhile fun c => !isAsciiDigit c).map Char.toLower
  let payload := s.dropWhile fun c => !isAsciiDigit c
  if !payload.all isAsciiDigit then none
  else if word = "nan".toList then some (.nan negative false (Text.toNat payload))
  else if word = "snan".toList then some (.nan negative true (Text.toNat payload))
  else if payload.isEmpty && (word = "inf".toList || word = "infinity".toList) then
    some (.infinity negative)
  else none

-- The number a text is the form of. Blanks around it and low lines anywhere do not count.
def ofText? (s : Text) : Option Decimal := do
  let plain ← ((Text.strip s).filter (· != '_')).mapM plainChar?
  let (negative, body) := Text.takeSign plain
  finite? negative body <|> special? negative body

end Decimal

end Copybook
