import Copybook.CommandLine.Command
import Copybook.Console.Grid
import Copybook.Layout.Listing
import Copybook.Layout.Template
import Copybook.Manifest.Extraction
import Copybook.Manifest.Page

/-!
What the commands do: the text they print, the files they write and how they end.
-/

namespace Copybook.CommandLine

inductive Content
  | text (s : Text)
  | bytes (b : Bytes)
  | table (t : Table)

-- How a run has ended. A fault that no command expects ends it too.
structure Outcome where
  exit : Nat := 0
  printed : Text := []
  written : List (Location × Content) := []
  fault : Option FaultKind := none

namespace Outcome

-- Words that are no command, or arguments that cannot be.
def usage : Outcome :=
  { exit := 2 }

def raised (kind : FaultKind) : Outcome :=
  { exit := 1, fault := some kind }

-- Shows a text with tags on the console.
def say (s : Text) : Outcome :=
  match Console.display s with
  | .ok shown => { printed := shown }
  | .error _ => raised .badMarkup

-- Something is wrong with the copybook, a record or a value.
def refused (message : Text) : Outcome :=
  { say ("[bold red]Error:[/] ".toList ++ Console.escape message) with exit := 1 }

def ofFault (kind : FaultKind) (message : Text) : Outcome :=
  if kind.isCopybookFault then refused message else raised kind

def print (s : Text) : Outcome :=
  { printed := s ++ ['\n'] }

end Outcome

-- A run of a command that may end before its time.
abbrev Run := Noting Outcome

def raiseFile {α : Type} (x : Except FileFault α) : Run α :=
  Noting.lift (x.mapError fun fault => Outcome.raised fault.kind)

def raiseExport {α : Type} (x : Except ExportFault α) : Run α :=
  Noting.lift (x.mapError fun fault => Outcome.raised fault.kind)

-- There must be an encoding of that name.
def codecOf (others : Encodings) (codePage : Text) (trim : Bool) : Run Codec :=
  let codec : Codec := { page := codePage, others := others, trim := trim }
  match codec.encoding with
  | .ok _ => return codec
  | .error fault => throw (if fault.kind = .unknownCodePage then .usage else .raised fault.kind)

def compile (tree : FileTree) (copybook : Location) (codec : Codec) : Run Layout := do
  if !(← raiseFile (tree.hasFile copybook)) then throw .usage
  let source ← raiseFile (tree.readText copybook)
  (Layout.compile source codec).mapFault fun fault => Outcome.ofFault fault.kind fault.message

-- A value printed as JSON over several lines.
def json (v : Value) : Run Outcome :=
  match Json.write .padded v with
  | some s => return .print s
  | none => throw (.raised .notWritable)

def entryValue (e : Entry) : Value :=
  let kind := match e.kind with
    | .array => "array"
    | .group => "group"
    | .field => "field"
  .record [
    ("path".toList, .text e.path),
    ("depth".toList, .int e.depth),
    ("kind".toList, .text kind.toList),
    ("offset".toList, .int e.offset),
    ("length".toList, .int e.length),
    ("picture".toList, .text e.picture),
    ("occurs".toList, .int e.occurs),
    ("redefines".toList, (e.redefines.map Value.text).getD .null)]

-- What follows the last point.
def lastName (path : Text) : Text :=
  (path.reverse.takeWhile (· != '.')).reverse

def entryRow (e : Entry) : Except DigitFault (List Text) := do
  let kind := match e.kind with
    | .array => "array"
    | .group => "group"
    | .field => "field"
  return [List.replicate (2 * e.depth) ' ' ++ lastName e.path,
    ← Text.writeNat e.offset,
    ← Text.writeNat e.length,
    if e.picture.isEmpty then kind.toList else e.picture,
    ← if e.occurs = 0 then pure [] else Text.writeNat e.occurs,
    e.redefines.getD []]

def columns : List Console.GridColumn := [
    { heading := "Field".toList },
    { heading := "Offset".toList, right := true },
    { heading := "Length".toList, right := true },
    { heading := "Type".toList },
    { heading := "Occurs".toList, right := true },
    { heading := "Redefines".toList }]

-- Shows the offset, the length and the type of every item.
def showLayout (tree : FileTree) (copybook : Location) (asJson : Bool) : Run Outcome := do
  let layout ← compile tree copybook {}
  if asJson then
    json (.record [
      ("record_length".toList, .int layout.length),
      ("fields".toList, .list (layout.entries.map entryValue))])
  else
    let raiseDigits {α : Type} (x : Except DigitFault α) : Run α :=
      Noting.lift (x.mapError fun _ => .raised .tooManyDigits)
    let length ← raiseDigits (Text.writeNat layout.length)
    let rows ← raiseDigits (layout.entries.mapM entryRow)
    match Console.Grid.draw (copybook.name ++ " (".toList ++ length ++ " bytes)".toList) columns rows with
    | .ok shown => return { printed := shown }
    | .error _ => throw (.raised .badMarkup)

-- The lines up to the first record that has no JSON form, and whether there is one.
def linesUntilFault : List Value → Text × Bool
  | [] => ([], false)
  | v :: vs =>
    match Json.write .compact v with
    | none => ([], true)
    | some s =>
      let (rest, failed) := linesUntilFault vs
      (s ++ '\n' :: rest, failed)

inductive Format
  | json
  | lines
  | arrow
  deriving DecidableEq, Repr

def Format.ofName? (name : Text) : Option Format :=
  match String.ofList (Text.lower name) with
  | "json" => some .json
  | "jsonl" => some .lines
  | "arrow" => some .arrow
  | _ => none

-- What goes to the file that records are written to. Lines are written one by one, so those before a fault
-- are there.
def contentOf (format : Format) (vs : List Value) (output : Location) : Run Content := do
  match format with
  | .json => return .text (← raiseExport (Export.json vs))
  | .arrow => return .table (← raiseExport (Export.table vs))
  | .lines =>
    let (s, failed) := linesUntilFault vs
    if failed then throw { Outcome.raised .notWritable with written := [(output, .text s)] }
    else return .text s

-- How many records are in a file. A table without columns has none.
def Content.count (vs : List Value) : Content → Nat
  | .table t => t.rows.length
  | _ => vs.length

-- Writes records to a file.
def writeRecords (tree : FileTree) (format : Format) (vs : List Value) (output : Location) : Run Outcome := do
  raiseFile (tree.checkPath output)
  let content ← contentOf format vs output
  let message :=
    "[bold green]Wrote[/] ".toList ++ Text.ofNat (content.count vs) ++ " records to ".toList ++ output.toText
  return { Outcome.say message with written := [(output, content)] }

-- Decodes the records of a file.
def decodeFile (tree : FileTree) (others : Encodings) (copybook input : Location) (output : Option Location)
    (format codePage : Text) (records blocks : Bool) (limit : Option Int) (trim : Bool) : Run Outcome := do
  let format ← match Format.ofName? format with
    | some format => pure format
    | none => throw .usage
  if records && blocks then throw .usage
  if format = .arrow ∧ output.isNone then throw .usage
  let framing := if blocks then Framing.blocks else if records then .records else .fixed
  let layout ← compile tree copybook (← codecOf others codePage trim)
  if !(← raiseFile (tree.hasFile input)) then throw .usage
  let data ← raiseFile (tree.read input)
  let readings ← Noting.lift ((layout.readDataset framing.name limit data).mapError fun fault =>
    Outcome.ofFault fault.kind fault.message)
  let vs ← (layout.values readings).mapFault fun fault => Outcome.ofFault fault.kind fault.message
  match output with
  | none => json (.list vs)
  | some output => writeRecords tree format vs output

-- The name and the value of an assignment.
def assignment? (s : Text) : Option (Text × Value) :=
  (Text.cutAt? '=' s).map fun (name, value) => (Text.strip name, .text value)

-- Writes a record with its initial values and those that are given.
def encodeFile (tree : FileTree) (others : Encodings) (copybook output : Location) (assignments : List Text)
    (codePage : Text) : Run Outcome := do
  let values ← match assignments.mapM assignment? with
    | some values => pure (Value.distinct values)
    | none => throw .usage
  let layout ← compile tree copybook (← codecOf others codePage true)
  let (result, record) := layout.assignAll layout.template values
  let () ← Noting.lift (result.mapError fun fault => Outcome.ofFault fault.kind fault.message)
  raiseFile (tree.checkFolder output)
  let message :=
    "[bold green]Wrote[/] ".toList ++ Text.ofNat layout.length ++ " bytes to ".toList ++ output.toText
  return { Outcome.say message with written := [(output, .bytes record)] }

-- Faults of a manifest that are faults of the call.
def isUsageFault (kind : FaultKind) : Bool :=
  kind.isCopybookFault || kind ∈ [.badSetting, .tooManyDigits, .missingKey, .malformedJson, .undecodable]

-- Adds what is done after something else has been printed and written.
def Outcome.andThen (first second : Outcome) : Outcome :=
  { second with
    printed := first.printed ++ second.printed
    written := first.written ++ second.written }

-- Writes the page of a report.
def writePage (tree : FileTree) (report : Report) (page : Location) : Except Outcome Outcome := do
  let settings ← match report.toValue with
    | .record settings => pure settings
    | _ => pure []
  (tree.checkPath page).mapError fun fault => Outcome.raised fault.kind
  let s ← (Page.render settings).mapError fun fault => Outcome.raised fault.kind
  let message := "[bold green]Wrote HTML report[/] to ".toList ++ page.toText
  return { Outcome.say message with written := [(page, .text s)] }

-- Checks a dataset against its manifest.
def checkManifest (tree : FileTree) (others : Encodings) (l : Location) (page : Option Location) : Run Outcome := do
  if !(← raiseFile (tree.hasFile l)) then throw .usage
  let m ← Noting.lift ((Manifest.load tree l).mapError fun fault =>
    if isUsageFault fault.kind then Outcome.usage else .raised fault.kind)
  let report ← (m.validate tree others).mapFault fun fault => Outcome.raised fault.kind
  let shown ← json report.toValue
  let shown ← match page with
    | none => pure shown
    | some page => Noting.lift (((writePage tree report page).mapError shown.andThen).map shown.andThen)
  return if report.warnings.isEmpty then shown else { shown with exit := 1 }

def helpText : Text := Text.join ['\n'] [
    "Usage: copybook [OPTIONS] COMMAND [ARGS]...".toList,
    [],
    "  layout COPYBOOK [--json]".toList,
    "  decode COPYBOOK INPUT [-o FILE] [-f json|jsonl|arrow] [-p PAGE] [--rdw|--bdw]".toList,
    "    [--max-records N] [--no-trim]".toList,
    "  encode COPYBOOK OUTPUT [-s NAME=VALUE]... [-p PAGE]".toList,
    "  manifest validate MANIFEST [--html FILE]".toList,
    "  manifest sample".toList]

def runCommand (tree : FileTree) (others : Encodings) : Command → Run Outcome
  | .layout copybook json => showLayout tree copybook json
  | .decode copybook input output format codePage records blocks limit trim =>
    decodeFile tree others copybook input output format codePage records blocks limit trim
  | .encode copybook output assignments codePage => encodeFile tree others copybook output assignments codePage
  | .validate manifest page => checkManifest tree others manifest page
  | .sample => json Manifest.sample
  | .help => return .print helpText

-- Runs the command that the words of a command line are.
def run (tree : FileTree) (others : Encodings) (args : List Text) : Outcome × List Notice :=
  match Command.ofArgs? args with
  | none => (.usage, [])
  | some command =>
    let (result, notices) := (runCommand tree others command).result
    (match result with | .ok outcome => outcome | .error outcome => outcome, notices)

-- The files that a command looks at, as far as those that are known tell.
def wanted (tree : FileTree) : Command → List Location
  | .layout copybook _ => [copybook]
  | .decode copybook input output .. => [copybook, input] ++ output.toList
  | .encode copybook output .. => [copybook, output]
  | .validate manifest page =>
    manifest :: page.toList ++
      match Manifest.load tree manifest with
      | .ok m => m.path :: m.copybook.toList
      | .error _ => []
  | .sample | .help => []

end Copybook.CommandLine
