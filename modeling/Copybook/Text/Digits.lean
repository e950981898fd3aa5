import Copybook.Text

/-!
Decimal digits of every script, the number a run of digits stands for, and the plain decimal text of a
number.
-/

namespace Copybook

-- The zeros; each is followed by the other nine digits of its script.
def zeroDigits : List Nat := [
    0x30, 0x660, 0x6f0, 0x7c0, 0x966, 0x9e6, 0xa66, 0xae6, 0xb66, 0xbe6, 0xc66, 0xce6, 0xd66,
    0xde6, 0xe50, 0xed0, 0xf20, 0x1040, 0x1090, 0x17e0, 0x1810, 0x1946, 0x19d0, 0x1a80, 0x1a90,
    0x1b50, 0x1bb0, 0x1c40, 0x1c50, 0xa620, 0xa8d0, 0xa900, 0xa9d0, 0xa9f0, 0xaa50, 0xabf0,
    0xff10, 0x104a0, 0x10d30, 0x11066, 0x110f0, 0x11136, 0x111d0, 0x112f0, 0x11450, 0x114d0,
    0x11650, 0x116c0, 0x11730, 0x118e0, 0x11950, 0x11c50, 0x11d50, 0x11da0, 0x16a60, 0x16ac0,
    0x16b50, 0x1d7ce, 0x1d7d8, 0x1d7e2, 0x1d7ec, 0x1d7f6, 0x1e140, 0x1e2f0, 0x1e950, 0x1fbf0]

-- The value of a decimal digit of any script.
def digitValue? (c : Char) : Option Nat :=
  (zeroDigits.find? fun start => start ≤ c.toNat && c.toNat < start + 10).map (c.toNat - ·)

def isDecimalDigit (c : Char) : Bool :=
  (digitValue? c).isSome

-- Raised, lowered, circled and other digits that no decimal number is written with.
def ornamentalDigits : CharRanges := [
    (0xb2, 0xb3), (0xb9, 0xb9), (0x1369, 0x1371), (0x19da, 0x19da), (0x2070, 0x2070),
    (0x2074, 0x2079), (0x2080, 0x2089), (0x2460, 0x2468), (0x2474, 0x247c), (0x2488, 0x2490),
    (0x24ea, 0x24ea), (0x24f5, 0x24fd), (0x24ff, 0x24ff), (0x2776, 0x277e), (0x2780, 0x2788),
    (0x278a, 0x2792), (0x10a40, 0x10a43), (0x10e60, 0x10e68), (0x11052, 0x1105a),
    (0x1f100, 0x1f10a)]

def isAnyDigit (c : Char) : Bool :=
  isDecimalDigit c || ornamentalDigits.contains c

theorem digitValue?_lt {c : Char} {d : Nat} (h : digitValue? c = some d) : d < 10 := by
  obtain ⟨start, hz, rfl⟩ := Option.map_eq_some_iff.1 h
  have := List.find?_some hz
  simp only [Bool.and_eq_true, decide_eq_true_eq] at this
  omega

theorem digitValue?_digitChar {d : Nat} (h : d < 10) : digitValue? (Nat.digitChar d) = some d :=
  have all : ∀ d : Fin 10, digitValue? (Nat.digitChar d) = some d.val := by decide
  all ⟨d, h⟩

namespace Text

-- The number that the digits stand for, most significant first. Other characters count as zero.
def toNat (digits : Text) : Nat :=
  digits.foldl (fun n c => n * 10 + (digitValue? c).getD 0) 0

def ofNat (n : Nat) : Text :=
  Nat.toDigits 10 n

def ofInt (i : Int) : Text :=
  if i < 0 then '-' :: ofNat i.natAbs else ofNat i.natAbs

theorem toNat_concat (digits : Text) (c : Char) :
    toNat (digits ++ [c]) = toNat digits * 10 + (digitValue? c).getD 0 := by
  simp [toNat]

theorem toNat_ofNat (n : Nat) : toNat (ofNat n) = n := by
  induction n using Nat.strongRecOn with
  | ind n ih =>
    by_cases h : n < 10
    · rw [ofNat, Nat.toDigits_of_lt_base h]
      simp [toNat, digitValue?_digitChar h]
    · -- All digits but the last are those of the quotient by ten.
      have hn : n = 10 * (n / 10) + n % 10 := by omega
      have hd := Nat.toDigits_append_toDigits (b := 10) (n := n / 10) (d := n % 10) (by omega) (by omega)
        (by omega)
      have hm : n % 10 < 10 := by omega
      rw [Nat.toDigits_of_lt_base hm, ← hn] at hd
      rw [ofNat, ← hd, toNat_concat, digitValue?_digitChar hm]
      have := ih (n / 10) (by omega)
      rw [ofNat] at this
      rw [this]
      simp only [Option.getD_some]
      omega

-- How many decimal digits a number is written with; zero takes one.
def digitCount (n : Nat) : Nat :=
  (ofNat n).length

end Text

-- The most decimal digits that a whole number is read from or written with.
def maxDigits : Nat := 4300

-- A number with more digits than that: how many they are is known when it is read.
inductive DigitFault
  | read (count : Nat)
  | written
  deriving DecidableEq, Repr

def DigitFault.message : DigitFault → Text
  | read count =>
    limit ++ ": value has ".toList ++ Text.ofNat count ++ " digits".toList ++ advice
  | written => limit ++ advice
where
  limit : Text :=
    "Exceeds the limit (".toList ++ Text.ofNat maxDigits ++ " digits) for integer string conversion".toList
  advice : Text :=
    "; use sys.set_int_max_str_digits() to increase the limit".toList

namespace Text

-- The number that the digits stand for, unless they are too many. Zeros in front count too.
def readNat (digits : Text) : Except DigitFault Nat :=
  if maxDigits < digits.length then .error (.read digits.length) else .ok (toNat digits)

-- Whether a number has no more digits than the limit allows, `none` being no limit.
def isWritable (limit : Option Nat) (n : Nat) : Bool :=
  limit.all fun digits => n < 10 ^ digits

-- The digits of a number, unless they are too many.
def writeNat (n : Nat) (limit : Option Nat := some maxDigits) : Except DigitFault Text :=
  if isWritable limit n then .ok (ofNat n) else .error .written

theorem readNat_eq_ok {digits : Text} (h : digits.length ≤ maxDigits) :
    readNat digits = .ok (toNat digits) := by
  simp [readNat, Nat.not_lt.2 h]

theorem writeNat_eq_ok {n : Nat} {limit : Option Nat} (h : isWritable limit n) :
    writeNat n limit = .ok (ofNat n) := by
  simp [writeNat, h]

end Text

end Copybook
