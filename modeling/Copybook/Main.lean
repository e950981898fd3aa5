import Copybook.CommandLine.Run

/-!
The program: the files that a command looks at are read first, then it runs, then what it has written goes
to its files.
-/

namespace Copybook.CommandLine

-- What stands at a path, directories being told from files by the error that reading one gives.
def entryAt (l : Location) : IO (Option FileEntry) := do
  try
    let content ← IO.FS.readBinFile (String.ofList l.toText)
    return some (.file content.toList)
  catch
    | .inappropriateType _ 21 _ => return some .directory
    | _ => return none

-- The entries at some paths and at the folders that they are in.
def entriesAt (ls : List Location) : IO (List (Location × Option FileEntry)) := do
  let all := ls.flatMap fun l => (List.range (l.parts.length + 1)).map fun n =>
    ({ l with parts := l.parts.take n } : Location)
  all.eraseDups.mapM fun l => do return (l, ← entryAt l)

-- The files that a command looks at. A manifest has to be read before it is known which they are.
def treeFor (command : Command) : IO FileTree := do
  let first ← entriesAt (wanted (fun l => .error (.missing l.toText)) command)
  let tree (known : List (Location × Option FileEntry)) : FileTree := fun l =>
    match (known.lookup l).join with
    | some entry => .ok entry
    | none => .error (.missing l.toText)
  let second ← entriesAt (wanted (tree first) command)
  return tree second

def contentBytes : Content → ByteArray
  | .text s => (String.ofList s).toUTF8
  | .bytes b => ⟨b.toArray⟩
  -- A table is written row by row.
  | .table t => (String.ofList (t.rows.flatMap fun row =>
      (Json.write .compact (.record row)).getD [] ++ ['\n'])).toUTF8

def writeContent (l : Location) (content : Content) : IO Unit := do
  IO.FS.createDirAll (String.ofList l.parent.toText)
  IO.FS.writeBinFile (String.ofList l.toText) (contentBytes content)

end Copybook.CommandLine

open Copybook CommandLine in
def main (args : List String) : IO UInt32 := do
  let words := args.map String.toList
  let tree ← match Command.ofArgs? words with
    | some command => treeFor command
    | none => pure fun l => .error (.missing l.toText)
  let (outcome, notices) := run tree .none words
  for n in notices do
    IO.eprintln (String.ofList n.message)
  IO.print (String.ofList outcome.printed)
  for (l, content) in outcome.written do
    writeContent l content
  if outcome.exit = 2 then IO.eprintln "invalid command line, see --help"
  if outcome.fault.isSome then IO.eprintln "the command could not be carried out"
  return UInt32.ofNat outcome.exit
