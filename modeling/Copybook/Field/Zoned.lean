import Copybook.Codec
import Copybook.Field.Number

/-!
Zoned numbers: one digit a byte, as text. The last digit of a signed number is overpunched with the sign.

Reading is lenient: signs may stand by themselves at either end, a blank is a zero, an overpunch may stand
anywhere, and a byte with no meaning as a character counts with its low half.
-/

namespace Copybook.Zoned

def positiveDigits : List Char :=
  "\x7bABCDEFGHI".toList

def negativeDigits : List Char :=
  "\x7dJKLMNOPQR".toList

def plainDigits : List Char :=
  "0123456789".toList

-- What a place of a zoned number says: the next digit, with or without a minus, or the sign alone.
inductive Mark
  | digit (d : Nat)
  | negativeDigit (d : Nat)
  | sign (negative : Bool)
  deriving DecidableEq, Repr

def mark (atEnd : Bool) (c : Char) (byte : UInt8) : Except FieldFault Mark :=
  match plainDigits.idxOf? c, positiveDigits.idxOf? c, negativeDigits.idxOf? c with
  | some d, _, _ => .ok (.digit d)
  | none, some d, _ => .ok (.digit d)
  | none, none, some d => .ok (.negativeDigit d)
  | none, none, none =>
    if (c = '+' ∨ c = '-') ∧ atEnd then .ok (.sign (c == '-'))
    else if c = ' ' then .ok (.digit 0)
    else
      let low := byte.toNat % 16
      if low ≤ 9 then .ok (.digit low) else .error (.notZoned byte)

-- Reads the places from `position` on, `last` being the last one, after a number `n` has been read.
def readFrom (last position : Nat) (negative : Bool) (n : Nat) :
    List (Char × UInt8) → Except FieldFault (Bool × Nat)
  | [] => .ok (negative, n)
  | (c, byte) :: rest => do
    match ← mark (position == 0 || position == last) c byte with
    | .digit d => readFrom last (position + 1) negative (n * 10 + d) rest
    | .negativeDigit d => readFrom last (position + 1) true (n * 10 + d) rest
    | .sign minus => readFrom last (position + 1) minus n rest

def decode (codec : Codec) (b : Bytes) : Except FieldFault Int := do
  let s ← codec.decode b
  let (negative, n) ← readFrom (s.length - 1) 0 false 0 (s.zip b)
  return if negative then -(n : Int) else n

-- The digits with the sign over the last one.
def overpunch (negative : Bool) (digits : Text) : Text :=
  let signed := if negative then negativeDigits else positiveDigits
  digits.dropLast ++ (digits.getLast?.bind fun c => (plainDigits.idxOf? c).bind (signed[·]?)).toList

def digits (codec : Codec) (shape : NumberShape) (n : Int) : Except FieldFault Text := do
  let written ← (Text.writeNat n.natAbs codec.digitLimit).mapError .digits
  let plain := Text.padLeft '0' shape.digits written
  return if shape.signed then overpunch (decide (n < 0)) plain else plain

def encode (codec : Codec) (shape : NumberShape) (n : Int) : Except FieldFault Bytes := do
  codec.encode (← digits codec shape n)

end Copybook.Zoned
