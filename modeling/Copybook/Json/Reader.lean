import Copybook.Decimal.Shortest
import Copybook.Fault
import Copybook.Text.Utf16

/-!
Reading values from JSON text. `NaN`, `Infinity` and `-Infinity` are read as numbers too. Of two members of
one name the last one counts, at the place of the first.
-/

namespace Copybook.Json

def isJsonBlank (c : Char) : Bool :=
  c == ' ' || c == '\t' || c == '\n' || c == '\r'

def skip (s : Text) : Text :=
  s.dropWhile isJsonBlank

-- The number of four hexadecimal digits.
def unit? (a b c d : Char) : Option Nat := do
  let a ← Bytes.hexValue? a
  let b ← Bytes.hexValue? b
  let c ← Bytes.hexValue? c
  let d ← Bytes.hexValue? d
  return ((a * 16 + b) * 16 + c) * 16 + d

def escaped? : Char → Option Char
  | '"' => some '"'
  | '\\' => some '\\'
  | '/' => some '/'
  | 'b' => some (Char.ofNat 8)
  | 'f' => some (Char.ofNat 12)
  | 'n' => some '\n'
  | 'r' => some '\r'
  | 't' => some '\t'
  | _ => none

-- The characters that two halves of a pair stand for, or that one unit alone does.
def ofUnit (high : Option Nat) (unit : Nat) : Text × Option Nat :=
  match high with
  | some h =>
    if Utf16.isLow unit then ([Utf16.pair h unit], none)
    else let (s, next) := alone unit; (replacementChar :: s, next)
  | none => alone unit
where
  alone (unit : Nat) : Text × Option Nat :=
    if Utf16.isHigh unit then ([], some unit)
    else if Utf16.isLow unit then ([replacementChar], none)
    else ([Char.ofNat unit], none)

-- A half that no other half follows.
def lone (high : Option Nat) : Text :=
  if high.isSome then [replacementChar] else []

-- The text up to the closing mark, and what follows that mark. `high` is the first half of a pair that has
-- just been read.
def stringFrom (high : Option Nat) : Text → Option (Text × Text)
  | [] => none
  | '"' :: s => some (lone high, s)
  | '\\' :: 'u' :: a :: b :: c :: d :: s => do
    let unit ← unit? a b c d
    let (chars, next) := ofUnit high unit
    let (t, rest) ← stringFrom next s
    return (chars ++ t, rest)
  | '\\' :: c :: s => do
    let c ← escaped? c
    let (t, rest) ← stringFrom none s
    return (lone high ++ c :: t, rest)
  | c :: s => do
    if c.toNat < 32 then none
    let (t, rest) ← stringFrom none s
    return (lone high ++ c :: t, rest)

-- An optional point with digits after it.
def fraction (s : Text) : Text × Text :=
  match s with
  | '.' :: r =>
    let digits := r.takeWhile isAsciiDigit
    if digits.isEmpty then ([], s) else ('.' :: digits, r.dropWhile isAsciiDigit)
  | _ => ([], s)

-- An optional exponent.
def exponent (s : Text) : Text × Text :=
  match s with
  | c :: r =>
    if c = 'e' ∨ c = 'E' then
      let (negative, r) := Text.takeSign r
      let digits := r.takeWhile isAsciiDigit
      if digits.isEmpty then ([], s)
      else ('e' :: Decimal.sign negative ++ digits, r.dropWhile isAsciiDigit)
    else ([], s)
  | [] => ([], [])

-- Digits without a zero in front, unless it is the only one.
def whole? : Text → Option (Text × Text)
  | '0' :: s => some (['0'], s)
  | s =>
    let digits := s.takeWhile isAsciiDigit
    if digits.isEmpty then none else some (digits, s.dropWhile isAsciiDigit)

-- Why a text is the JSON form of no value.
inductive Fault
  | malformed
  | digits (fault : DigitFault)
  | tooDeep
  deriving DecidableEq, Repr

def Fault.kind : Fault → FaultKind
  | malformed => .malformedJson
  | digits _ => .tooManyDigits
  | tooDeep => .tooDeep

def Fault.message : Fault → Text
  | malformed => "malformed JSON".toList
  | digits fault => fault.message
  | tooDeep => "too many brackets inside one another".toList

-- The computation with a fault for its missing result.
def orMalformed {α : Type} : Option α → Except Fault α
  | some a => .ok a
  | none => .error .malformed

-- A number without a fraction and an exponent is an integer.
def number (s : Text) : Except Fault (Value × Text) := do
  let (negative, unsigned) := match s with
    | '-' :: r => (true, r)
    | _ => (false, s)
  let (whole, rest) ← orMalformed (whole? unsigned)
  let (places, rest) := fraction rest
  let (power, rest) := exponent rest
  if places.isEmpty && power.isEmpty then
    let n ← (Text.readNat whole).mapError .digits
    return (.int (Text.signed negative n), rest)
  else
    let (c, e) ← orMalformed (Decimal.unsigned? (whole ++ places ++ power))
    return (.float (Binary64.toText (.finite negative c e)), rest)

def words : List (Text × Value) := [
    ("null".toList, .null), ("true".toList, .bool true), ("false".toList, .bool false),
    ("NaN".toList, .float "nan".toList), ("Infinity".toList, .float "inf".toList),
    ("-Infinity".toList, .float "-inf".toList)]

def word? (s : Text) : Option (Value × Text) :=
  words.findSome? fun (w, v) => if w.isPrefixOf s then some (v, s.drop w.length) else none

-- So many brackets may be open at once.
def maxDepth : Nat := 980

mutual

-- A value, and what follows it. At most `depth` brackets may be opened in it. Each step into a value takes
-- one of `fuel`.
def value (fuel depth : Nat) (s : Text) : Except Fault (Value × Text) :=
  match fuel with
  | 0 => throw .malformed
  | fuel + 1 =>
    match s, depth with
    | '"' :: r, _ => do
      let (t, rest) ← orMalformed (stringFrom none r)
      return (.text t, rest)
    | '[' :: _, 0 | '\x7b' :: _, 0 => throw .tooDeep
    | '[' :: r, depth + 1 =>
      match skip r with
      | ']' :: rest => return (.list [], rest)
      | r => do
        let (vs, rest) ← items fuel depth r
        return (.list vs, rest)
    | '\x7b' :: r, depth + 1 =>
      match skip r with
      | '\x7d' :: rest => return (.record [], rest)
      | r => do
        let (fields, rest) ← fields fuel depth r
        return (.record (Value.distinct fields), rest)
    | s, _ =>
      match word? s with
      | some found => return found
      | none => number s

-- Values with commas between them, up to the closing bracket.
def items (fuel depth : Nat) (s : Text) : Except Fault (List Value × Text) :=
  match fuel with
  | 0 => throw .malformed
  | fuel + 1 => do
    let (v, rest) ← value fuel depth s
    match skip rest with
    | ',' :: r => do
      let (vs, rest) ← items fuel depth (skip r)
      return (v :: vs, rest)
    | ']' :: rest => return ([v], rest)
    | _ => throw .malformed

-- Named values with commas between them, up to the closing bracket.
def fields (fuel depth : Nat) (s : Text) : Except Fault (List (Text × Value) × Text) :=
  match fuel with
  | 0 => throw .malformed
  | fuel + 1 =>
    match s with
    | '"' :: r => do
      let (name, rest) ← orMalformed (stringFrom none r)
      match skip rest with
      | ':' :: r => do
        let (v, rest) ← value fuel depth (skip r)
        match skip rest with
        | ',' :: r => do
          let (fields, rest) ← fields fuel depth (skip r)
          return ((name, v) :: fields, rest)
        | '\x7d' :: rest => return ([(name, v)], rest)
        | _ => throw .malformed
      | _ => throw .malformed
    | _ => throw .malformed

end

-- The value that a text is the JSON form of.
def read (s : Text) : Except Fault Value := do
  let (v, rest) ← value (2 * s.length + 2) maxDepth (skip s)
  if (skip rest).isEmpty then return v else throw .malformed

end Copybook.Json
