import Copybook.CommandLine.Options
import Copybook.FileTree

/-!
The commands and their options.
-/

namespace Copybook.CommandLine

inductive Command
  | layout (copybook : Location) (json : Bool)
  | decode (copybook input : Location) (output : Option Location) (format codePage : Text)
      (records blocks : Bool) (limit : Option Int) (trim : Bool)
  | encode (copybook output : Location) (assignments : List Text) (codePage : Text)
  | validate (manifest : Location) (page : Option Location)
  | sample
  | help

namespace Command

def helpSwitch : Switch :=
  { key := "help", long := "--help".toList }

def pageSwitch : Switch :=
  { key := "codepage", long := "--codepage".toList, short := some 'p', takesValue := true }

-- The words of a command, `none` if they cannot be read or if there are not as many as it has
-- arguments. A call for help counts before the arguments do.
def words? (switches : List Switch) (arguments : Nat) (args : List Text) : Option (Words × Bool) :=
  match readWords? (helpSwitch :: switches) true args with
  | none => none
  | some ws =>
    if ws.has "help" then some (ws, true)
    else if ws.others.length = arguments then some (ws, false)
    else none

def pageOf (ws : Words) : Text :=
  (ws.value? "codepage").getD "cp037".toList

-- A whole number for an option, if it is given; `none` if it is no number.
def number? (ws : Words) (key : String) : Option (Option Int) :=
  match ws.value? key with
  | none => some none
  | some s => (Text.wholeNumber? s).map some

def layout? (args : List Text) : Option Command := do
  let (ws, asked) ← words? [{ key := "json", long := "--json".toList }] 1 args
  if asked then return .help
  match ws.others with
  | [copybook] => return .layout (Location.ofText copybook) (ws.has "json")
  | _ => none

def decode? (args : List Text) : Option Command := do
  let (ws, asked) ← words? [
      { key := "output", long := "--output".toList, short := some 'o', takesValue := true },
      { key := "format", long := "--format".toList, short := some 'f', takesValue := true },
      pageSwitch,
      { key := "rdw", long := "--rdw".toList },
      { key := "bdw", long := "--bdw".toList },
      { key := "limit", long := "--max-records".toList, takesValue := true },
      { key := "keep", long := "--no-trim".toList }] 2 args
  if asked then return .help
  let limit ← number? ws "limit"
  match ws.others with
  | [copybook, input] =>
    return .decode (Location.ofText copybook) (Location.ofText input)
      ((ws.value? "output").map Location.ofText) ((ws.value? "format").getD "json".toList) (pageOf ws)
      (ws.has "rdw") (ws.has "bdw") limit (!ws.has "keep")
  | _ => none

def encode? (args : List Text) : Option Command := do
  let (ws, asked) ← words? [
      { key := "set", long := "--set".toList, short := some 's', takesValue := true },
      pageSwitch] 2 args
  if asked then return .help
  match ws.others with
  | [copybook, output] =>
    return .encode (Location.ofText copybook) (Location.ofText output) (ws.values "set") (pageOf ws)
  | _ => none

def validate? (args : List Text) : Option Command := do
  let (ws, asked) ← words? [{ key := "html", long := "--html".toList, takesValue := true }] 1 args
  if asked then return .help
  match ws.others with
  | [manifest] => return .validate (Location.ofText manifest) ((ws.value? "html").map Location.ofText)
  | _ => none

def sample? (args : List Text) : Option Command := do
  let (_, asked) ← words? [] 0 args
  return if asked then .help else .sample

-- The command of a word that is followed by others, the options of all commands standing before it.
def choose? (switches : List Switch) (commands : List (String × (List Text → Option Command)))
    (args : List Text) : Option Command := do
  let ws ← readWords? (helpSwitch :: switches) false args
  if ws.has "help" then return .help
  match ws.others with
  | [] => none
  | name :: rest =>
    let (_, read) ← commands.find? fun c => c.1.toList == name
    read rest

def ofArgs? (args : List Text) : Option Command :=
  choose? [{ key := "verbose", long := "--verbose".toList, short := some 'v' }] [
    ("layout", layout?),
    ("decode", decode?),
    ("encode", encode?),
    ("manifest", choose? [] [("validate", validate?), ("sample", sample?)])] args

end Command

end Copybook.CommandLine
