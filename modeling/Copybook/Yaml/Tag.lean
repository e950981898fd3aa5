import Copybook.Bytes
import Copybook.Timestamp

/-!
What kind of value a node stands for: what its tag says, or what its text looks like if it is plain.
-/

namespace Copybook.Yaml

-- The kinds of values. `merge` marks fields that are taken over from elsewhere, `standIn` is the value of a
-- mapping that stands for itself.
inductive Tag
  | null
  | bool
  | int
  | float
  | timestamp
  | text
  | sequence
  | mapping
  | merge
  | standIn
  | other
  deriving DecidableEq, Repr

namespace Tag

def known : List (Text × Tag) := [
    ("null".toList, null), ("bool".toList, bool), ("int".toList, int), ("float".toList, float),
    ("timestamp".toList, timestamp), ("str".toList, text), ("seq".toList, sequence), ("map".toList, mapping),
    ("merge".toList, merge), ("value".toList, standIn)]

-- What all known tags begin with.
def start : Text :=
  "tag:yaml.org,2002:".toList

def ofText (s : Text) : Tag :=
  if start.isPrefixOf s then ((known.lookup (s.drop start.length)).getD other) else other

def nulls : List String := ["", "~", "null", "Null", "NULL"]

def trues : List String := ["true", "True", "TRUE", "yes", "Yes", "YES", "on", "On", "ON"]

def falses : List String := ["false", "False", "FALSE", "no", "No", "NO", "off", "Off", "OFF"]

def infinities : List String := [".inf", ".Inf", ".INF"]

def notNumbers : List String := [".nan", ".NaN", ".NAN"]

-- Digits and low lines, of which there must be some.
def isRun (isDigit : Char → Bool) (s : Text) : Bool :=
  !s.isEmpty && s.all fun c => isDigit c || c == '_'

-- A digit of a class, then digits and low lines.
def isNumber (isFirst : Char → Bool) (s : Text) : Bool :=
  s.head?.any isFirst && isRun isAsciiDigit s

-- A number below sixty, with one digit or two.
def isSixtieth : Text → Bool
  | [a] => isAsciiDigit a
  | [a, b] => '0' ≤ a && a ≤ '5' && isAsciiDigit b
  | _ => false

-- A number with numbers below sixty after it, a colon before each.
def isClockLike (isFirst : Char → Bool) (s : Text) : Bool :=
  match Text.splitOn ':' s with
  | first :: second :: rest => isNumber isFirst first && (second :: rest).all isSixtieth
  | _ => false

def isPositive (c : Char) : Bool :=
  '1' ≤ c && c ≤ '9'

-- Whole numbers in decimal, in octal, hexadecimal or binary after `0`, `0x` or `0b`, and with parts below
-- sixty.
def isInt (s : Text) : Bool :=
  let body := (Text.takeSign s).2
  let rest := body.drop 1
  body == ['0'] || isNumber isPositive body || isClockLike isPositive body ||
    body.head? == some '0' &&
      (isRun (fun c => '0' ≤ c && c ≤ '7') rest ||
        rest.head? == some 'b' && isRun (fun c => c == '0' || c == '1') (rest.drop 1) ||
        rest.head? == some 'x' && isRun (fun c => (Bytes.hexValue? c).isSome) (rest.drop 1))

-- Nothing, or an exponent with its sign.
def isPower : Text → Bool
  | [] => true
  | c :: sign :: digits =>
    (c == 'e' || c == 'E') && (sign == '+' || sign == '-') && !digits.isEmpty && digits.all isAsciiDigit
  | _ => false

-- The digits and low lines after a point, and a power.
def isFraction (s : Text) : Bool :=
  isPower (s.dropWhile fun c => isAsciiDigit c || c == '_')

-- Numbers with a point, with a digit before it or, without a sign, after it.
def isFloat (s : Text) : Bool :=
  let body := (Text.takeSign s).2
  let unsigned := body.length == s.length
  if String.ofList body ∈ infinities then true
  else if unsigned && String.ofList body ∈ notNumbers then true
  else
    match Text.cutAt? '.' body with
    | some ([], fraction) => unsigned && fraction.head?.any isAsciiDigit && isFraction fraction
    | some (whole, fraction) =>
      isNumber isAsciiDigit whole && isFraction fraction ||
        isClockLike isAsciiDigit whole && fraction.all fun c => isAsciiDigit c || c == '_'
    | none => false

-- The kind of value that a plain text looks like.
def ofPlain (s : Text) : Tag :=
  let word := String.ofList s
  if word ∈ nulls then null
  else if word ∈ trues || word ∈ falses then bool
  else if isInt s then int
  else if isFloat s then float
  else if (Timestamp.ofText? s).isSome then timestamp
  else if word = "<<" then merge
  else if word = "=" then standIn
  else text

-- The kind of value of a scalar.
def ofScalar (tag : Option Text) (plain : Bool) (s : Text) : Tag :=
  match tag with
  | some tag => ofText tag
  | none => if plain then ofPlain s else text

end Tag

end Copybook.Yaml
