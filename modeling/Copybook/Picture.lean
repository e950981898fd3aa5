import Copybook.Text.Blank
import Copybook.Text.Case
import Copybook.Text.Digits

/-!
Pictures: the formats that copybooks declare fields with, and the types of field they stand for. Each
type has a length in bytes and a canonical picture.
-/

namespace Copybook

-- How a number is laid out: a digit a byte, two digits a byte, or a binary integer.
inductive Storage
  | zoned
  | packed
  | binary
  deriving DecidableEq, Repr

-- The digits before and after the assumed decimal point, and whether negative numbers are allowed.
structure NumberShape where
  intDigits : Nat
  fracDigits : Nat
  signed : Bool
  deriving DecidableEq, Repr

def NumberShape.digits (shape : NumberShape) : Nat :=
  shape.intDigits + shape.fracDigits

inductive FieldType
  | text (length : Nat) (edited : Bool)
  | number (storage : Storage) (shape : NumberShape)
  deriving DecidableEq, Repr

namespace Storage

-- How many bytes a number of `digits` digits takes. A binary number of more than eighteen digits takes as
-- many as its greatest value needs with a sign bit.
def length (digits : Nat) : Storage → Nat
  | zoned => digits
  | packed => digits / 2 + 1
  | binary =>
    if digits ≤ 4 then 2
    else if digits ≤ 9 then 4
    else if digits ≤ 18 then 8
    else (Nat.log2 (10 ^ digits - 1) + 9) / 8

end Storage

namespace FieldType

def length : FieldType → Nat
  | text length _ => length
  | number storage shape => storage.length shape.digits

-- The picture of the digits: an `S` if signed, then the digits on each side of the point as one run.
def digitsPicture (shape : NumberShape) : Text :=
  (if shape.signed then ['S'] else []) ++
    (if shape.intDigits = 0 then [] else "9(".toList ++ Text.ofNat shape.intDigits ++ [')']) ++
    (if shape.fracDigits = 0 then [] else "V9(".toList ++ Text.ofNat shape.fracDigits ++ [')'])

def describe : FieldType → Text
  | text length edited =>
    (if edited then "EDITED(".toList else "X(".toList) ++ Text.ofNat length ++ [')']
  | number storage shape =>
    digitsPicture shape ++
      match storage with
      | .zoned => []
      | .packed => " COMP-3".toList
      | .binary => " COMP".toList

end FieldType

namespace Picture

-- Why a picture stands for no type.
inductive Fault
  | unknown
  | usage (word : Text)
  | digits (fault : DigitFault)
  deriving DecidableEq, Repr

def Fault.message : Fault → Text
  | unknown => "Could not determine the field type".toList
  | usage word => "Unsupported usage ".toList ++ word
  | digits fault => fault.message

-- A count in parentheses at the front, and what follows it.
def count? : Text → Option (Nat × Text)
  | '(' :: s =>
    let digits := s.takeWhile isDecimalDigit
    match s.dropWhile isDecimalDigit with
    | ')' :: rest => if digits.isEmpty then none else some (Text.toNat digits, rest)
    | _ => none
  | _ => none

theorem length_of_count? {s rest : Text} {n : Nat} (h : count? s = some (n, rest)) :
    rest.length < s.length := by
  unfold count? at h
  split at h
  · next t =>
    simp only at h
    split at h
    · next r hr =>
      split at h
      · contradiction
      · cases h
        have := (List.dropWhile_sublist isDecimalDigit (l := t)).length_le
        rw [hr] at this
        simp at this ⊢
        omega
    · contradiction
  · contradiction

-- The runs of symbols at the front, each symbol standing as often as the count after it says: how many
-- symbols that are in all, and what follows.
def runs (symbol : Char → Bool) : Text → Nat × Text
  | [] => (0, [])
  | c :: s =>
    if symbol c then
      match _h : count? s with
      | some (n, rest) =>
        let (total, rest) := runs symbol rest
        (n + total, rest)
      | none =>
        let (total, rest) := runs symbol s
        (1 + total, rest)
    else (0, c :: s)
termination_by s => s.length
decreasing_by
  · have := length_of_count? _h
    simp; omega
  · simp

-- At least one run at the front.
def runs? (symbol : Char → Bool) (s : Text) : Option (Nat × Text) :=
  if s.head?.any symbol then some (runs symbol s) else none

def isTextSymbol (c : Char) : Bool :=
  c == 'X' || c == 'A' || c == 'B'

def isNine (c : Char) : Bool :=
  c == '9'

def isEditSymbol (c : Char) : Bool :=
  "+-XAB0123456789Z/,.".toList.contains c

def isUsageChar (c : Char) : Bool :=
  c.isUpper || c.isDigit || c == '-'

-- A usage is a word; a period may end it.
def usageWord? (s : Text) : Option Text :=
  let word := if s.getLast? = some '.' then s.dropLast else s
  if word.isEmpty || !word.all isUsageChar then none else some word

-- The usage after a format, `none` inside if there is no usage. The word `USAGE`, the word `IS`, or both
-- may introduce it.
def usage? : Text → Option (Option Text)
  | [] => some none
  | ['.'] => some none
  | ' ' :: s =>
    match Text.splitOn ' ' s with
    | [word] => (usageWord? word).map some
    | [intro, word] =>
      if intro = "USAGE".toList ∨ intro = "IS".toList then (usageWord? word).map some else none
    | [intro, is, word] =>
      if intro = "USAGE".toList ∧ is = "IS".toList then (usageWord? word).map some else none
    | _ => none
  | _ => none

def isDisplay (usage : Option Text) : Bool :=
  usage == none || usage == some "DISPLAY".toList

def packedUsages : List Text :=
  ["COMP-3".toList, "COMPUTATIONAL-3".toList, "PACKED-DECIMAL".toList]

def binaryUsages : List Text :=
  ["COMP".toList, "COMP-4".toList, "COMP-5".toList, "BINARY".toList, "COMPUTATIONAL".toList,
    "COMPUTATIONAL-4".toList, "COMPUTATIONAL-5".toList]

def storage? (usage : Option Text) : Except Fault Storage :=
  match usage with
  | none => .ok .zoned
  | some word =>
    if word = "DISPLAY".toList then .ok .zoned
    else if packedUsages.contains word then .ok .packed
    else if binaryUsages.contains word then .ok .binary
    else .error (.usage word)

def textLength? (s : Text) : Option Nat := do
  let (length, rest) ← runs? isTextSymbol s
  let usage ← usage? rest
  if isDisplay usage then some length else none

-- The digits before and after the point, and what follows them. Without digits in front, the point must
-- be followed by some.
def digits? (s : Text) : Option (Nat × Nat × Text) :=
  match runs? isNine s with
  | some (intDigits, 'V' :: rest) =>
    match runs? isNine rest with
    | some (fracDigits, rest) => some (intDigits, fracDigits, rest)
    | none => some (intDigits, 0, rest)
  | some (intDigits, rest) => some (intDigits, 0, rest)
  | none =>
    match s with
    | 'V' :: rest => (runs? isNine rest).map fun (fracDigits, rest) => (0, fracDigits, rest)
    | _ => none

def number? (s : Text) : Option (NumberShape × Option Text) := do
  let (signed, body) := match s with
    | 'S' :: rest => (true, rest)
    | _ => (false, s)
  let (intDigits, fracDigits, rest) ← digits? body
  let usage ← usage? rest
  return (⟨intDigits, fracDigits, signed⟩, usage)

-- The counts in parentheses, as they are written.
def counts (s : Text) : List Text :=
  ((Text.splitOn '(' s).drop 1).map fun rest => rest.takeWhile isDecimalDigit

-- Counts that are too long to be read are found out one after another.
def checkCounts (s : Text) : Except Fault Unit :=
  (counts s).forM fun digits => (Text.readNat digits).mapError .digits |>.map fun _ => ()

-- In capitals, with single spaces between words.
def tidy (picture : Text) : Text :=
  Text.join [' '] (Text.words picture.upper)

-- The type of field that a format, with or without a usage, stands for.
def classify (picture : Text) : Except Fault FieldType :=
  let s := tidy picture
  match textLength? s with
  | some length => (checkCounts s).map fun _ => .text length false
  | none =>
    match number? s with
    | some (shape, usage) => do
      checkCounts s
      return .number (← storage? usage) shape
    | none =>
      if !s.isEmpty && s.all isEditSymbol then .ok (.text s.length true) else .error .unknown

end Picture

end Copybook
