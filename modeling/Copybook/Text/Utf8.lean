import Copybook.Text

/-!
Reading and writing UTF-8. Reading never fails: each longest run of bytes that begins a character but
does not complete one is read as one replacement character.
-/

namespace Copybook

-- Stands for what cannot be read.
def replacementChar : Char :=
  Char.ofNat 0xfffd

namespace Utf8

-- A character of which some bytes have been read: how many are missing, where the next one may lie, and
-- the bits so far.
structure Pending where
  missing : Nat
  low : UInt8
  high : UInt8
  bits : Nat

inductive Progress
  | done (c : Char)
  | more (p : Pending)

-- What a byte at the start of a character leads to. The bounds of the second byte leave out overlong
-- forms, surrogates and numbers past the last code point.
def start (byte : UInt8) : Progress :=
  if byte < 0x80 then .done (Char.ofNat byte.toNat)
  else if byte < 0xc2 then .done replacementChar
  else if byte < 0xe0 then .more ⟨1, 0x80, 0xbf, byte.toNat - 0xc0⟩
  else if byte < 0xf0 then
    .more ⟨2, if byte = 0xe0 then 0xa0 else 0x80, if byte = 0xed then 0x9f else 0xbf, byte.toNat - 0xe0⟩
  else if byte < 0xf5 then
    .more ⟨3, if byte = 0xf0 then 0x90 else 0x80, if byte = 0xf4 then 0x8f else 0xbf, byte.toNat - 0xf0⟩
  else .done replacementChar

def Pending.accepts (p : Pending) (byte : UInt8) : Bool :=
  p.low ≤ byte && byte ≤ p.high

def Pending.next (p : Pending) (byte : UInt8) : Progress :=
  let bits := p.bits * 64 + (byte.toNat - 0x80)
  if p.missing ≤ 1 then .done (Char.ofNat bits) else .more ⟨p.missing - 1, 0x80, 0xbf, bits⟩

def decodeFrom : Option Pending → Bytes → Text
  | none, [] => []
  | some _, [] => [replacementChar]
  | none, byte :: rest =>
    match start byte with
    | .done c => c :: decodeFrom none rest
    | .more p => decodeFrom (some p) rest
  | some p, byte :: rest =>
    if p.accepts byte then
      match p.next byte with
      | .done c => c :: decodeFrom none rest
      | .more p => decodeFrom (some p) rest
    else
      replacementChar ::
        match start byte with
        | .done c => c :: decodeFrom none rest
        | .more p => decodeFrom (some p) rest

def decode (b : Bytes) : Text :=
  decodeFrom none b

def encode (s : Text) : Bytes :=
  s.flatMap String.utf8EncodeChar

-- The text whose form is exactly these bytes.
def decode? (b : Bytes) : Option Text :=
  let s := decode b
  if encode s = b then some s else none

end Utf8

end Copybook
