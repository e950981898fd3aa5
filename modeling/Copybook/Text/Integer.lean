import Copybook.Text.Blank
import Copybook.Text.Digits

/-!
Whole numbers written with a sign, digits, and low lines between digits.
-/

namespace Copybook

inductive IntegerFault
  | malformed
  | digits (fault : DigitFault)
  deriving DecidableEq, Repr

-- The blanks that may stand around a number: all but the separators of information.
def isNumberBlank (c : Char) : Bool :=
  isBlank c && !(0x1c ≤ c.toNat && c.toNat ≤ 0x1f)

def isAsciiDigit (c : Char) : Bool :=
  '0' ≤ c && c ≤ '9'

namespace Text

-- Whether a minus stands in front, and what follows the sign if there is one.
def takeSign : Text → Bool × Text
  | '-' :: s => (true, s)
  | '+' :: s => (false, s)
  | s => (false, s)

-- The digits of a text that holds groups of them with a low line between neighbours.
def ungrouped? (isDigit : Char → Bool) (s : Text) : Option Text :=
  let groups := splitOn '_' s
  if groups.all fun g => !g.isEmpty && g.all isDigit then some groups.flatten else none

def signed (negative : Bool) (n : Nat) : Int :=
  if negative then -(n : Int) else n

-- The number that a text is, digits of every script being as good as any. That the digits are too many is
-- found out before what follows them is looked at.
def readInteger (s : Text) : Except IntegerFault Int := do
  let (negative, body) := takeSign (s.dropWhile isNumberBlank)
  let run := body.takeWhile fun c => isDecimalDigit c || c == '_'
  match ungrouped? isDecimalDigit run with
  | none => throw .malformed
  | some digits =>
    let n ← (readNat digits).mapError .digits
    if (body.drop run.length).all isNumberBlank then return signed negative n else throw .malformed

-- The number that a text of ASCII digits is. A point with nothing but zeros after it may end it.
def wholeNumber? (s : Text) : Option Int :=
  let s := dropRight isNumberBlank (s.dropWhile isNumberBlank)
  let (negative, body) := takeSign s
  let (whole, places) := match cutAt? '.' body with
    | some (whole, places) => (whole, some places)
    | none => (body, none)
  if maxDigits < s.length || places.any fun p => p.isEmpty || !p.all (· == '0') then none
  else (ungrouped? isAsciiDigit whole).map fun digits => signed negative (toNat digits)

end Text

end Copybook
