import Copybook.Text.Blank
import Copybook.Text.Digits

/-!
Copybook source as statements. A line in columns loses what is not code: the sequence area, the indicator
and the identification area. A period ends a statement if a blank or the end of the source follows it; a
quoted literal is opaque.
-/

namespace Copybook.Source

def isQuote (c : Char) : Bool :=
  c == '\'' || c == '"'

-- The literal that is open after `c`, given by its mark, if `quote` was open before.
def openAfter (quote : Option Char) (c : Char) : Option Char :=
  match quote with
  | some q => if c = q then none else some q
  | none => if isQuote c then some c else none

-- The text before the first comment mark.
def dropComment : Text → Text
  | [] => []
  | '*' :: '>' :: _ => []
  | c :: s => c :: dropComment s

-- The code of a line by columns: the indicator in column 7 may make a comment of it. Numbered lines end at
-- column 72 and have their code after the indicator; in others the first seven columns are kept. `none` if
-- the line is a comment.
def columnsCode? (line : Text) : Option Text :=
  match line.drop 6 with
  | [] => some line
  | indicator :: code =>
    let numbered := (line.take 6).all isAnyDigit
    if numbered || (line.take 6).all isBlank then
      if indicator = '*' ∨ indicator = '/' then none
      else some (if numbered then ' ' :: code.take 65 else line.take 72)
    else some line

-- The code of a line, `none` if the line is a comment.
def code? (line : Text) : Option Text := do
  let code := dropComment (← columnsCode? line)
  if (Text.stripLeft code).head? = some '*' then none else some code

def beginsBlank (s : Text) : Bool :=
  s.head?.all isBlank

-- Cuts at the periods that end a statement. `statement` holds what has been read of the first one,
-- last character first.
def cutFrom (quote : Option Char) (statement : Text) : Text → List Text
  | [] => [statement.reverse]
  | c :: s =>
    if quote.isNone && c == '.' && beginsBlank s then statement.reverse :: cutFrom none [] s
    else cutFrom (openAfter quote c) (c :: statement) s

-- Every run of blanks outside literals becomes one space. `spaced` tells whether a space has just been
-- written.
def collapseFrom (quote : Option Char) (spaced : Bool) : Text → Text
  | [] => []
  | c :: s =>
    if quote.isNone && isBlank c then
      if spaced then collapseFrom none true s else ' ' :: collapseFrom none true s
    else c :: collapseFrom (openAfter quote c) false s

-- Trimmed, and with single spaces outside literals.
def collapse (s : Text) : Text :=
  collapseFrom none true (Text.strip s)

-- The code of all lines.
def code (source : Text) : Text :=
  Text.join ['\n'] (source.lines.filterMap code?)

-- The statements of a source, without their periods.
def statements (source : Text) : List Text :=
  ((cutFrom none [] (code source)).filter fun s => !s.all isBlank).map collapse

end Copybook.Source
