import Copybook.Console.Cell
import Copybook.Console.Markup

/-!
Text broken into lines of a given width. A line is broken between words; a word that fits no line is broken
where the line is full.
-/

namespace Copybook.Console

-- The text with blanks up to the next of the positions that tabs lead to, `position` being where it starts.
def expandFrom (position : Nat) : List Text → Text
  | [] => []
  | [s] => s
  | s :: rest =>
    let stop := position + cells s + 1
    let blanks := (8 - stop % 8) % 8
    s ++ List.replicate (1 + blanks) ' ' ++ expandFrom (stop + blanks) rest

-- A line with blanks for its tabs.
def expandTabs (s : Text) : Text :=
  expandFrom 0 (Text.splitOn '\t' s)

-- Words with the blanks after them, those before the first word belonging to it. Blanks alone are no word.
def spacedWordsFrom (word : Text) (spaced : Bool) : Text → List Text
  | [] => if word.isEmpty then [] else [word.reverse]
  | c :: s =>
    if isBlank c then spacedWordsFrom (c :: word) (!word.all isBlank) s
    else if spaced then word.reverse :: spacedWordsFrom [c] false s
    else spacedWordsFrom (c :: word) false s

def spacedWords (s : Text) : List Text :=
  if s.all isBlank then [] else spacedWordsFrom [] false s

-- The signs of a word in rows that are as long as the width allows.
def foldFrom (width : Nat) (row : Text) (used : Nat) : List Sign → List Text
  | [] => [row]
  | sign :: rest =>
    if width < used + sign.cells then row :: foldFrom width sign.chars sign.cells rest
    else foldFrom width (row ++ sign.chars) (used + sign.cells) rest

-- Puts words one after another, `line` being the line under way and `used` its cells.
def fill (width : Nat) (line : Text) (used : Nat) : List Text → List Text
  | [] => [line]
  | word :: words =>
    let length := cells (Text.dropRight isBlank word)
    if used + length ≤ width then fill width (line ++ word) (used + cells word) words
    else if length ≤ width then line :: fill width word (cells word) words
    else
      let rows := foldFrom width [] 0 (signs word)
      let last := rows.getLast?.getD []
      (if line.isEmpty then [] else [line]) ++ rows.dropLast ++ fill width last (cells last) words

-- A line without the blanks at its end that reach past the width.
def trimEnd (width : Nat) (line : Text) : Text :=
  let blanks := (line.reverse.takeWhile isBlank).length
  line.take (line.length - min blanks (line.length - width))

-- As many signs of a line as there is room for. What a wide sign leaves of that is a blank.
def cropFrom (room : Nat) : List Sign → Text
  | [] => []
  | sign :: rest =>
    if sign.cells ≤ room then sign.chars ++ cropFrom (room - sign.cells) rest
    else List.replicate room ' '

def crop (width : Nat) (line : Text) : Text :=
  if cells line ≤ width then line else cropFrom width (signs line)

-- The lines of a text, none of them longer than `width`.
def wrap (width : Nat) (s : Text) : List Text :=
  (Text.splitOn '\n' s).flatMap fun line =>
    let line := expandTabs line
    let rows := match spacedWords line with
      | [] => [line]
      | words => fill width [] 0 words
    rows.map fun row => crop width (trimEnd width row)

-- A line in the middle of the width, what cannot be halved being on the right.
def centre (width : Nat) (line : Text) : Text :=
  let line := crop width (Text.dropRight isBlank line)
  let spare := width - cells line
  List.replicate (spare / 2) ' ' ++ line ++ List.replicate (spare - spare / 2) ' '

-- The cells of a line of the console.
def lineWidth : Nat := 10000

-- What the console shows of a text with tags, each line with its end.
def display (s : Text) : Except MarkupFault Text :=
  (render s).map fun text => (wrap lineWidth text).flatMap fun line => line ++ ['\n']

end Copybook.Console
