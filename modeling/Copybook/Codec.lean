import Copybook.CodePage
import Copybook.Fault
import Copybook.Text.Case

/-!
How the text of a record is converted to and from bytes.
-/

namespace Copybook

-- Why a text has no bytes: a character is missing, or the conversion itself fails.
inductive EncodingFault
  | noCharacter
  | failed (message : Text)
  deriving Repr

-- What is wrong with bytes is replaced when they are read, so that reading fails only if the conversion itself does.
structure Encoding where
  decode : Bytes → Except Text Text
  encode : Text → Except EncodingFault Bytes

-- The encodings that a name may stand for if it is not the name of a code page.
abbrev Encodings := Text → Option Encoding

def Encodings.none : Encodings :=
  fun _ => .none

def CodePage.encoding (page : CodePage) : Encoding where
  decode b := .ok (page.decode b)
  encode s :=
    match page.encode? s with
    | some b => .ok b
    | none => .error .noCharacter

-- The name of a code page or of another encoding, and whether decoded text loses the padding at its end. A
-- conversion of the caller's own replaces the encoding in its direction. Whole numbers of more digits than
-- `digitLimit` have no text; `none` is no limit.
structure Codec where
  page : Text := "cp037".toList
  others : Encodings := .none
  trim : Bool := true
  reader : Option (Bytes → Text) := none
  writer : Option (Text → Except FieldFault Bytes) := none
  digitLimit : Option Nat := some maxDigits

namespace Codec

-- Whether no conversion of the caller's own is in use.
def Plain (codec : Codec) : Prop :=
  codec.reader = none ∧ codec.writer = none

-- The encoding of that name. No name holds a NUL.
def encoding (codec : Codec) : Except FieldFault Encoding :=
  match CodePage.ofName? codec.page with
  | some page => .ok page.encoding
  | none =>
    if codec.page.contains '\x00' then .error .nulInName
    else match codec.others codec.page with
      | some e => .ok e
      | none => .error (.unknownCodePage codec.page)

-- No bytes are no text under any name that can be one, whether there is an encoding of that name or not.
def decode (codec : Codec) (b : Bytes) : Except FieldFault Text :=
  match codec.reader with
  | some read => .ok (read b)
  | none =>
    if b.isEmpty && !codec.page.contains '\x00' then .ok []
    else do
      let e ← codec.encoding
      (e.decode b).mapError .conversionFailed

def encode (codec : Codec) (s : Text) : Except FieldFault Bytes :=
  match codec.writer with
  | some write => write s
  | none => do
    let e ← codec.encoding
    (e.encode s).mapError fun
      | .noCharacter => .notInCodePage s codec.page
      | .failed message => .conversionFailed message

end Codec

end Copybook
