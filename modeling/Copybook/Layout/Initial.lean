import Copybook.Field

/-!
The bytes that the literal of a VALUE clause gives to a field.
-/

namespace Copybook.Initial

-- Each doubled mark as a single one.
def undouble (mark : Char) : Text → Text
  | c :: d :: s => if c = mark ∧ d = mark then mark :: undouble mark s else c :: undouble mark (d :: s)
  | s => s

-- The text inside quotation marks.
def unquote? (literal : Text) : Option Text :=
  match literal with
  | mark :: rest =>
    if (mark = '\'' ∨ mark = '"') ∧ rest.getLast? = some mark then some (undouble mark rest.dropLast)
    else none
  | [] => none

-- The byte that a figurative constant fills a field with.
def fill? (word : Text) : Option UInt8 :=
  if word = "LOW-VALUE".toList ∨ word = "LOW-VALUES".toList then some 0
  else if word = "HIGH-VALUE".toList ∨ word = "HIGH-VALUES".toList then some 0xff
  else none

def isSpaces (word : Text) : Bool :=
  word == "SPACE".toList || word == "SPACES".toList

def isZeros (word : Text) : Bool :=
  word == "ZERO".toList || word == "ZEROS".toList || word == "ZEROES".toList

-- The text that `ALL` repeats: what is inside the quotes, unless there are none or nothing is inside.
def pattern (s : Text) : Text :=
  match unquote? s with
  | some [] => s
  | some inner => inner
  | none => s

-- Zeros fill a text field and are the number zero in others.
def zeros (type : FieldType) (length : Nat) : Value :=
  match type with
  | .text .. => .text (List.replicate length '0')
  | .number .. => .int 0

-- The bytes of a literal for a field of this type; figurative constants and `ALL` fill `length` bytes.
def encode (literal : Text) (type : FieldType) (length : Nat) (codec : Codec) : Except FieldFault Bytes :=
  let s := Text.strip literal
  let word := s.upper
  match fill? word with
  | some byte => .ok (List.replicate length byte)
  | none =>
    if isSpaces word then (codec.encode [' ']).map fun blank => (List.replicate length blank).flatten
    else if "ALL ".toList.isPrefixOf word then
      (codec.encode (pattern (Text.strip (s.drop 4)))).map fun b => Bytes.cycle b length
    else if isZeros word then type.encode codec (zeros type length)
    else type.encode codec (.text ((unquote? s).getD s))

end Copybook.Initial
