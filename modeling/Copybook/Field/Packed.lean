import Copybook.Codec
import Copybook.Field.Number

/-!
Packed numbers: a digit in each half of a byte, the last half being the sign.
-/

namespace Copybook.Packed

-- The digit halves, each with its byte. The last half of all is the sign and no digit.
def halves : Bytes → List (UInt8 × Nat)
  | [] => []
  | [byte] => [(byte, byte.toNat / 16)]
  | byte :: rest => (byte, byte.toNat / 16) :: (byte, byte.toNat % 16) :: halves rest

def readFrom (n : Nat) : List (UInt8 × Nat) → Except FieldFault Nat
  | [] => .ok n
  | (byte, half) :: rest => if half ≤ 9 then readFrom (n * 10 + half) rest else .error (.notPacked byte)

-- Eleven and thirteen are minus, every other sign is plus.
def isNegative (b : Bytes) : Bool :=
  b.getLast?.any fun byte => byte.toNat % 16 == 0xb || byte.toNat % 16 == 0xd

def decode (b : Bytes) : Except FieldFault Int :=
  (readFrom 0 (halves b)).map fun n => if isNegative b then -(n : Int) else n

-- Two halves a byte.
def join : List Nat → Bytes
  | high :: low :: rest => UInt8.ofNat (high * 16 + low) :: join rest
  | _ => []

def encode (codec : Codec) (shape : NumberShape) (n : Int) : Except FieldFault Bytes := do
  let width := 2 * Storage.packed.length shape.digits - 1
  let written ← (Text.writeNat n.natAbs codec.digitLimit).mapError .digits
  let digits := (Text.padLeft '0' width written).map fun c => (digitValue? c).getD 0
  return join (digits ++ [if n < 0 then 0xd else 0xc])

end Copybook.Packed
