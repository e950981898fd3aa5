import Copybook.Console.Line
import Copybook.Decimal.Rounding

/-!
Rows of cells drawn as a grid with a title and a heading. A grid that is wider than the console has its widest
columns made narrower, and the ends of their cells are left out.
-/

namespace Copybook.Console

structure GridColumn where
  heading : Text
  right : Bool := false

namespace GridColumn

-- The width of the widest cell, the heading included.
def width (c : GridColumn) (cells : List Text) : Nat :=
  cells.foldl (fun w cell => max w cell.length) c.heading.length

-- A cell that is too long ends with an ellipsis.
def cut (width : Nat) (cell : Text) : Text :=
  if width < cell.length then cell.take (width - 1) ++ ['…'] else cell

-- A cell with a blank at each side.
def draw (c : GridColumn) (width : Nat) (cell : Text) : Text :=
  let cell := cut width cell
  let padded := if c.right then Text.padLeft ' ' width cell else Text.padRight ' ' width cell
  ' ' :: padded ++ [' ']

end GridColumn

namespace Grid

-- Takes `excess` off the widths of `widest`, of which there are `count`, in equal parts of at most `most`.
def narrowWidest (widest most : Nat) (excess count : Nat) : List Nat → List Nat
  | [] => []
  | w :: ws =>
    if w = widest then
      let part := min most (Decimal.divHalfEven excess count)
      (w - part) :: narrowWidest widest most (excess - part) (count - 1) ws
    else w :: narrowWidest widest most excess count ws

-- Narrows the widest columns down to the next widest ones, and so on, until they fit. Each round takes one
-- of `rounds`.
def narrow (limit : Nat) (rounds : Nat) (widths : List Nat) : List Nat :=
  match rounds with
  | 0 => widths
  | rounds + 1 =>
    let excess := widths.sum - limit
    if excess = 0 then widths
    else
      let widest := widths.foldl max 0
      let next := (widths.filter (· != widest)).foldl max 0
      narrow limit rounds (narrowWidest widest (min excess (widest - next)) excess (widths.count widest) widths)

-- A horizontal line with these characters at its start, in it, at the columns' borders and at its end.
def rule (first line border last : Char) (widths : List Nat) : Text :=
  first :: Text.join [border] (widths.map fun w => List.replicate (w + 2) line) ++ [last]

def row (border : Char) (columns : List GridColumn) (widths : List Nat) (cells : List Text) : Text :=
  let drawn := ((columns.zip widths).zip cells).map fun ((c, w), cell) => c.draw w cell
  border :: Text.join [border] drawn ++ [border]

-- The grid, each line with its end. The title may have tags, and takes as many lines as it needs.
def draw (title : Text) (columns : List GridColumn) (rows : List (List Text)) : Except MarkupFault Text := do
  let widths := columns.zipIdx.map fun (c, i) => c.width (rows.map fun cells => cells.getD i [])
  let limit := lineWidth - (3 * widths.length + 1)
  let widths := narrow limit (widths.length + 1) widths
  let full := (widths.map (· + 3)).sum + 1
  let title := wrap full (← render title)
  let lines :=
    title.map (centre full) ++
    [rule '┏' '━' '┳' '┓' widths,
      row '┃' columns widths (columns.map (·.heading)),
      rule '┡' '━' '╇' '┩' widths] ++
    rows.map (row '│' columns widths) ++
    [rule '└' '─' '┴' '┘' widths]
  return lines.flatMap fun line => line ++ ['\n']

end Grid

end Copybook.Console
