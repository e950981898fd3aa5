import Copybook.Text.Utf8

/-!
Reading and writing UTF-16 with the low byte of each unit first. A unit that belongs to no pair, and a
byte left over at the end, are read as one replacement character each; a first half at the end takes the
left-over byte with it.
-/

namespace Copybook.Utf16

def isHigh (unit : Nat) : Bool :=
  0xd800 ≤ unit && unit < 0xdc00

def isLow (unit : Nat) : Bool :=
  0xdc00 ≤ unit && unit < 0xe000

def pair (high low : Nat) : Char :=
  Char.ofNat (0x10000 + (high - 0xd800) * 0x400 + (low - 0xdc00))

-- `high` is the first half of a pair that has just been read.
def decodeFrom (high : Option Nat) : Bytes → Text
  | [] => if high.isSome then [replacementChar] else []
  | [_] => [replacementChar]
  | a :: b :: rest =>
    let unit := a.toNat + 256 * b.toNat
    let alone : Text :=
      if isHigh unit then decodeFrom (some unit) rest
      else if isLow unit then replacementChar :: decodeFrom none rest
      else Char.ofNat unit :: decodeFrom none rest
    match high with
    | none => alone
    | some h => if isLow unit then pair h unit :: decodeFrom none rest else replacementChar :: alone

def decode (b : Bytes) : Text :=
  decodeFrom none b

def unitBytes (unit : Nat) : Bytes :=
  [UInt8.ofNat (unit % 256), UInt8.ofNat (unit / 256)]

def encodeChar (c : Char) : Bytes :=
  let n := c.toNat
  if n < 0x10000 then unitBytes n
  else unitBytes (0xd800 + (n - 0x10000) / 0x400) ++ unitBytes (0xdc00 + (n - 0x10000) % 0x400)

def encode (s : Text) : Bytes :=
  s.flatMap encodeChar

end Copybook.Utf16
