import Copybook.Bytes
import Copybook.Text.Printable

/-!
Text and bytes between quotation marks, as messages show them: on one line, every character that would
not be seen replaced by an escape.
-/

namespace Copybook

namespace Text

-- Single marks, unless the text has those and no double ones.
def quoteMark (s : Text) : Char :=
  if s.contains '\'' && !s.contains '"' then '"' else '\''

-- The shortest hexadecimal escape that holds the code point.
def escapeCode (n : Nat) : Text :=
  if n < 0x100 then '\\' :: 'x' :: Bytes.hexDigits 2 n
  else if n < 0x10000 then '\\' :: 'u' :: Bytes.hexDigits 4 n
  else '\\' :: 'U' :: Bytes.hexDigits 8 n

def escapeChar (mark c : Char) : Text :=
  if c = '\\' ∨ c = mark then ['\\', c]
  else if c = '\n' then ['\\', 'n']
  else if c = '\r' then ['\\', 'r']
  else if c = '\t' then ['\\', 't']
  else if isPrintable c then [c]
  else escapeCode c.toNat

def quoted (s : Text) : Text :=
  let mark := quoteMark s
  mark :: s.flatMap (escapeChar mark) ++ [mark]

end Text

namespace Bytes

-- The bytes as ASCII text where they are, the others as escapes.
def quoted (b : Bytes) : Text :=
  let shown : Text := b.map fun byte => Char.ofNat byte.toNat
  let mark := Text.quoteMark shown
  let escape (c : Char) : Text := if c.toNat < 0x80 then Text.escapeChar mark c else Text.escapeCode c.toNat
  'b' :: mark :: shown.flatMap escape ++ [mark]

end Bytes

end Copybook
