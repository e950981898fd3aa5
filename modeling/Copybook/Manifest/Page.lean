import Copybook.Manifest.Basic
import Copybook.Text.Markup

/-!
A report as a page to look at.
-/

namespace Copybook.Page

-- What a list holds; of a text its characters, of a record its names.
def members : Value → Except ManifestFault (List Value)
  | .list items => .ok items
  | .text s => .ok (s.map fun c => .text [c])
  | .record fields => .ok (fields.map fun f => .text f.1)
  | .bytes b => .ok (b.map fun byte => .int byte.toNat)
  | v => .error (.wrongType v)

-- A value shown in the page.
def shown (v : Value) : Text :=
  v.toText.markup

def row (name : Text) (v : Value) : Text :=
  "<tr><td>".toList ++ name.markup ++ "</td><td>".toList ++ shown v ++ "</td></tr>".toList

-- Warnings and errors have places of their own.
def rows (report : List (Text × Value)) : Text :=
  let shownFields := report.filter fun f => f.1 ≠ "warnings".toList ∧ f.1 ≠ "decode_errors".toList
  shownFields.flatMap fun f => row f.1 f.2

def errorItem : Value → Except ManifestFault Text
  | .text s => .ok ("<li>".toList ++ s.markup ++ "</li>".toList)
  | .bytes b => .error (.wrongType (.bytes b))
  | v => .error (.notText v)

-- The errors as items, if there are any.
def errors (report : Settings) : Except ManifestFault Text := do
  let v := report.get "decode_errors"
  if !v.isSet then return []
  return (← (← members v).mapM errorItem).flatten

def warning : Value → Except ManifestFault Text
  | .text s => .ok s
  | v => .error (.wrongType v)

-- The warnings with commas between them.
def warnings (report : Settings) : Except ManifestFault Text := do
  let v := report.get "warnings"
  if !v.isSet then return "None".toList
  return Text.join ", ".toList (← (← members v).mapM warning)

-- The page of a report.
def render (report : Settings) : Except ManifestFault Text := do
  let errors ← errors report
  let warnings ← warnings report
  return Text.join ['\n'] [
    "<!DOCTYPE html>".toList,
    "<html><head><title>cobrec Manifest Validation</title></head>".toList,
    "<body>".toList,
    "<h1>cobrec Manifest Validation Report</h1>".toList,
    "<p><strong>Name:</strong> ".toList ++ shown (report.get "name") ++ "</p>".toList,
    "<p><strong>Warnings:</strong> ".toList ++ warnings ++ "</p>".toList,
    "<table border=\"1\" cellpadding=\"4\" cellspacing=\"0\">".toList,
    rows report,
    "</table>".toList,
    "<h3>Decode errors</h3>".toList,
    "<ul>".toList ++ errors ++ "</ul>".toList,
    "</body></html>".toList,
    []]

end Copybook.Page
