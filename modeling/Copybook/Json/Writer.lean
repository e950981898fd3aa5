import Copybook.Value

/-!
Values as JSON text. Decimals are written as texts, so that they keep their digits, and bytes as texts of
hexadecimal digits.
-/

namespace Copybook.Json

-- Whether each member stands on a line of its own, and whether the exponent of a floating-point number
-- keeps its leading zeros.
structure Style where
  spread : Bool
  paddedExponents : Bool
  deriving DecidableEq, Repr

namespace Style

-- All on one line without blanks.
def compact : Style :=
  ⟨false, false⟩

def indented : Style :=
  ⟨true, false⟩

def padded : Style :=
  ⟨true, true⟩

-- Members between brackets, two more blanks in front of them than in front of the brackets.
def enclose (style : Style) (depth : Nat) (first last : Char) (members : List Text) : Text :=
  let line (depth : Nat) : Text := if style.spread then '\n' :: List.replicate (2 * depth) ' ' else []
  if members.isEmpty then [first, last]
  else first :: line (depth + 1) ++ Text.join (',' :: line (depth + 1)) members ++ line depth ++ [last]

def colon (style : Style) : Text :=
  if style.spread then ": ".toList else [':']

end Style

def escapeChar (c : Char) : Text :=
  if c = '"' then ['\\', '"']
  else if c = '\\' then ['\\', '\\']
  else if c = '\n' then ['\\', 'n']
  else if c = '\r' then ['\\', 'r']
  else if c = '\t' then ['\\', 't']
  else if c.toNat = 8 then ['\\', 'b']
  else if c.toNat = 12 then ['\\', 'f']
  else if c.toNat < 32 then '\\' :: 'u' :: Bytes.hexDigits 4 c.toNat
  else [c]

def quote (s : Text) : Text :=
  '"' :: s.flatMap escapeChar ++ ['"']

-- Integers of 64 bits, with or without a sign, are written; others are not.
def isWritable (i : Int) : Bool :=
  -(2 ^ 63) ≤ i && i < 2 ^ 64

-- Digits with four zeros between them and the point in front.
def afterZeros (significand : Text) : Text :=
  let (negative, digits) := Text.takeSign significand
  Decimal.sign negative ++ "0.0000".toList ++ digits.filter (· != '.')

-- A floating-point number that is no number is written as null. The first digit may lie five places after
-- the point before an exponent is needed, four places if exponents are padded.
def float (style : Style) (digits : Text) : Text :=
  if digits ∈ ["nan".toList, "inf".toList, "-inf".toList] then "null".toList
  else if style.paddedExponents then digits
  else
    match Text.cutAt? 'e' digits with
    | some (significand, sign :: exponent) =>
      if sign = '-' ∧ exponent = ['0', '5'] then afterZeros significand
      else significand ++ 'e' :: sign :: exponent.dropWhile (· == '0')
    | _ => digits

-- So many brackets may be open at once.
def maxOpen : Nat := 254

mutual

-- The text of a value that stands `depth` brackets deep, unless the value or one in it cannot be
-- written.
def writeAt (style : Style) (depth : Nat) : Value → Option Text
  | .null => some "null".toList
  | .bool b => some (if b then "true".toList else "false".toList)
  | .int i => if isWritable i then some (Text.ofInt i) else none
  | .float digits => some (float style digits)
  | .decimal d => some (quote d.toText)
  | .text s => some (quote s)
  | .bytes b => some (quote (Bytes.toHex b))
  | .time t => some (quote (t.toText 'T'))
  | .list items =>
    if depth < maxOpen then (writeItems style (depth + 1) items).map (style.enclose depth '[' ']') else none
  | .record fields =>
    if depth < maxOpen then (writeFields style (depth + 1) fields).map (style.enclose depth '\x7b' '\x7d')
    else none
  | .ellipsis => none

def writeItems (style : Style) (depth : Nat) : List Value → Option (List Text)
  | [] => some []
  | v :: vs => do
    let s ← writeAt style depth v
    return s :: (← writeItems style depth vs)

def writeFields (style : Style) (depth : Nat) : List (Text × Value) → Option (List Text)
  | [] => some []
  | (name, v) :: fields => do
    let s ← writeAt style depth v
    return (quote name ++ style.colon ++ s) :: (← writeFields style depth fields)

end

def write (style : Style) (v : Value) : Option Text :=
  writeAt style 0 v

end Copybook.Json
