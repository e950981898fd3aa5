import Copybook.Field.Packed
import Copybook.Field.Zoned

/-!
The stored form of every type of field. Encoding is strict: what does not fit is refused, short text is
filled with blanks. Decoding takes any number of bytes.
-/

namespace Copybook.FieldType

-- Text with blanks after it up to the length of the field.
def encodeText (codec : Codec) (length : Nat) (s : Text) : Except FieldFault Bytes := do
  let b ← codec.encode s
  if length < b.length then throw (.tooLong s b.length length)
  let blank ← codec.encode [' ']
  return b ++ (List.replicate (length - b.length) blank).flatten

def isPadding (c : Char) : Bool :=
  c == ' ' || c == Char.ofNat 0

def decodeText (codec : Codec) (b : Bytes) : Except FieldFault Text :=
  (codec.decode b).map fun s => if codec.trim then Text.dropRight isPadding s else s

def encodeBinary (shape : NumberShape) (n : Int) : Except FieldFault Bytes :=
  let width := Storage.binary.length shape.digits
  let form := if shape.signed then Bytes.ofInt? width n else Bytes.ofNat? width n.toNat
  match form with
  | some b => .ok b
  | none => .error (.numberTooWide n width)

def decodeBinary (shape : NumberShape) (b : Bytes) : Int :=
  if shape.signed then Bytes.toInt b else Bytes.toNat b

-- The stored form of an integer.
def encodeStored (codec : Codec) (shape : NumberShape) (n : Int) : Storage → Except FieldFault Bytes
  | .zoned => Zoned.encode codec shape n
  | .packed => Packed.encode codec shape n
  | .binary => encodeBinary shape n

def decodeStored (codec : Codec) (shape : NumberShape) (b : Bytes) : Storage → Except FieldFault Int
  | .zoned => Zoned.decode codec b
  | .packed => Packed.decode b
  | .binary => .ok (decodeBinary shape b)

-- The text that a text field holds for a value; null is no text.
def written : Value → Text
  | .null => []
  | v => v.toText

-- The bytes of a value; null is blank text or zero.
def encode (type : FieldType) (codec : Codec) (v : Value) : Except FieldFault Bytes :=
  match type with
  | text length _ =>
    if v.isShowable codec.digitLimit then encodeText codec length (written v) else .error (.digits .written)
  | number storage shape => do
    let n ← shape.stored v
    encodeStored codec shape n storage

def decode (type : FieldType) (codec : Codec) (b : Bytes) : Except FieldFault Value :=
  match type with
  | text .. => (decodeText codec b).map Value.text
  | number storage shape => do
    let n ← decodeStored codec shape b storage
    shape.value n

end Copybook.FieldType
