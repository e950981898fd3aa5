import Copybook.Text

/-!
White space: which characters count as blank, trimming, and cutting text into words and lines.
-/

namespace Copybook

-- The blank characters: controls that move the position, separators of information, and the spaces of
-- every width.
def isBlank (c : Char) : Bool :=
  let n := c.toNat
  (0x09 ≤ n && n ≤ 0x0d) || (0x1c ≤ n && n ≤ 0x20) || n == 0x85 || n == 0xa0 || n == 0x1680 ||
    (0x2000 ≤ n && n ≤ 0x200a) || n == 0x2028 || n == 0x2029 || n == 0x202f || n == 0x205f ||
    n == 0x3000

-- The characters that end a line. A carriage return and a line feed after it end one line together.
def isLineEnd (c : Char) : Bool :=
  let n := c.toNat
  (0x0a ≤ n && n ≤ 0x0d) || (0x1c ≤ n && n ≤ 0x1e) || n == 0x85 || n == 0x2028 || n == 0x2029

namespace Text

def stripLeft (s : Text) : Text :=
  s.dropWhile isBlank

def strip (s : Text) : Text :=
  dropRight isBlank (s.dropWhile isBlank)

def wordsFrom (word : Text) : Text → List Text
  | [] => if word.isEmpty then [] else [word.reverse]
  | c :: s =>
    if isBlank c then
      if word.isEmpty then wordsFrom [] s else word.reverse :: wordsFrom [] s
    else wordsFrom (c :: word) s

-- The maximal runs of characters that are not blank.
def words (s : Text) : List Text :=
  wordsFrom [] s

def linesFrom (line : Text) : Text → List Text
  | [] => if line.isEmpty then [] else [line.reverse]
  | '\r' :: '\n' :: s => line.reverse :: linesFrom [] s
  | c :: s => if isLineEnd c then line.reverse :: linesFrom [] s else linesFrom (c :: line) s

-- The lines without their ends. Nothing follows the last line end.
def lines (s : Text) : List Text :=
  linesFrom [] s

end Text

end Copybook
