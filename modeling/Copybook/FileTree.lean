import Copybook.Fault
import Copybook.Text.Utf8

/-!
Files by their paths. A path is kept as its parts; `.` is no part, `..` is one like any other until the path
is followed.
-/

namespace Copybook

structure Location where
  root : Text
  parts : List Text
  deriving DecidableEq, Repr

namespace Location

-- The slashes at the start as they count: two of them are not the same as one, more are.
def rootOf (s : Text) : Text :=
  match s.takeWhile (· == '/') with
  | [] => []
  | [slash, slash'] => [slash, slash']
  | slash :: _ => [slash]

def ofText (s : Text) : Location :=
  ⟨rootOf s, (Text.splitOn '/' s).filter fun part => !part.isEmpty && part != ['.']⟩

def absolute (l : Location) : Bool :=
  !l.root.isEmpty

def toText (l : Location) : Text :=
  if l.root.isEmpty && l.parts.isEmpty then ['.'] else l.root ++ Text.join ['/'] l.parts

-- A path as seen from a folder. An absolute one is the same from everywhere.
def within (l folder : Location) : Location :=
  if l.absolute then l else ⟨folder.root, folder.parts ++ l.parts⟩

-- The folder that a path is in.
def parent (l : Location) : Location :=
  { l with parts := l.parts.dropLast }

def name (l : Location) : Text :=
  l.parts.getLast?.getD []

-- Whether every name on the path, and the path as a whole, is short enough to be looked up.
def isNameable (l : Location) : Bool :=
  (l.parts.all fun part => (Utf8.encode part).length ≤ 255) && (Utf8.encode l.toText).length < 4096

-- Goes on from some names by one part of a path.
def step (names : List Text) (part : Text) : Option (List Text) :=
  if part = "..".toList then if names.isEmpty then none else some names.dropLast
  else some (names ++ [part])

-- The names that lead to the end of a path from the working directory, `none` if it leads out of that.
def names? (l : Location) : Option (List Text) :=
  if l.absolute then none else l.parts.foldlM step []

-- What the name ends with from its last point on. A point at either end of a name starts no suffix.
def suffix (l : Location) : Text :=
  let last := l.name.reverse.takeWhile (· != '.')
  if last.isEmpty || l.name.length ≤ last.length + 1 then [] else '.' :: last.reverse

end Location

inductive FileEntry
  | file (content : Bytes)
  | directory
  deriving Repr

-- The bytes that an entry takes on its medium; a directory takes one block.
def FileEntry.size : FileEntry → Nat
  | file content => content.length
  | directory => 4096

inductive FileFault
  | missing (path : Text)
  | isDirectory (path : Text)
  | undecodable (path : Text)
  | notDirectory (path : Text)
  | inTheWay (path : Text)
  | nameTooLong (path : Text)
  deriving DecidableEq, Repr

namespace FileFault

def kind : FileFault → FaultKind
  | missing _ => .fileMissing
  | isDirectory _ => .isDirectory
  | undecodable _ => .undecodable
  | notDirectory _ => .notDirectory
  | inTheWay _ => .inTheWay
  | nameTooLong _ => .nameTooLong

def message : FileFault → Text
  | missing path => "no such file: ".toList ++ path
  | isDirectory path => "is a directory: ".toList ++ path
  | undecodable path => "not UTF-8: ".toList ++ path
  | notDirectory path => "not a directory: ".toList ++ path
  | inTheWay path => "a file is in the way: ".toList ++ path
  | nameTooLong path => "name too long: ".toList ++ path

-- Whether the fault only says that nothing stands at the path.
def isAbsence : FileFault → Bool
  | missing _ | notDirectory _ => true
  | _ => false

end FileFault

-- What stands at each path, or why nothing can be found there.
abbrev FileTree := Location → Except FileFault FileEntry

-- Line ends of other systems as line feeds.
def Text.unifyLineEnds : Text → Text
  | '\r' :: '\n' :: s => '\n' :: unifyLineEnds s
  | '\r' :: s => '\n' :: unifyLineEnds s
  | c :: s => c :: unifyLineEnds s
  | [] => []

namespace FileTree

def read (tree : FileTree) (l : Location) : Except FileFault Bytes := do
  match ← tree l with
  | .file content => return content
  | .directory => throw (.isDirectory l.toText)

def readText (tree : FileTree) (l : Location) : Except FileFault Text := do
  match Utf8.decode? (← tree.read l) with
  | some s => return s.unifyLineEnds
  | none => throw (.undecodable l.toText)

-- What stands there, if anything.
def entry? (tree : FileTree) (l : Location) : Except FileFault (Option FileEntry) :=
  match tree l with
  | .ok entry => .ok (some entry)
  | .error fault => if fault.isAbsence then .ok none else .error fault

-- Whether a file, and not a directory, stands there.
def hasFile (tree : FileTree) (l : Location) : Except FileFault Bool := do
  match ← tree.entry? l with
  | some (.file _) => return true
  | _ => return false

-- A file can be written into a folder that is there.
def checkFolder (tree : FileTree) (l : Location) : Except FileFault Unit := do
  match ← tree.entry? l, ← tree.entry? l.parent with
  | some .directory, _ => throw (.isDirectory l.toText)
  | _, some .directory => return
  | _, some (.file _) => throw (.notDirectory l.toText)
  | _, none => throw (.missing l.toText)

-- A folder is there, or can be made, unless a file has its name.
def checkAbove (tree : FileTree) (l folder : Location) : Except FileFault Unit := do
  if !folder.isNameable then throw (.nameTooLong l.toText)
  if ← tree.hasFile folder then throw (if folder = l.parent then .inTheWay l.toText else .notDirectory l.toText)

-- A file can be written into a folder that is made for it if need be. A file cannot be made a folder.
def checkPath (tree : FileTree) (l : Location) : Except FileFault Unit := do
  let above := (List.range l.parts.length).map fun n => ({ l with parts := l.parts.take n } : Location)
  above.forM (tree.checkAbove l)
  if !l.isNameable then throw (.nameTooLong l.toText)
  if let some .directory ← tree.entry? l then throw (.isDirectory l.toText)

-- Files given by their paths from the working directory, each path being a list of names.
abbrev Files := List (List Text × Bytes)

-- What stands at a path of names. Directories are those that hold files.
def look (files : Files) (here : List Text) : Option FileEntry :=
  match files.lookup here with
  | some content => some (.file content)
  | none =>
    if here.isEmpty || files.any fun f => here.isPrefixOf f.1 then some .directory else none

-- Follows the parts of `path` from a directory; `none` is one outside the working directory, in which
-- nothing can be seen.
def follow (files : Files) (path : Text) : Option (List Text) → List Text → Except FileFault FileEntry
  | none, [] => .ok .directory
  | none, part :: parts =>
    if part = "..".toList then follow files path none parts else .error (.missing path)
  | some here, [] =>
    match look files here with
    | some entry => .ok entry
    | none => .error (.missing path)
  | some here, part :: parts =>
    match look files here with
    | some .directory =>
      if !(⟨[], [part]⟩ : Location).isNameable then .error (.nameTooLong path)
      else follow files path (Location.step here part) parts
    | some (.file _) => .error (.notDirectory path)
    | none => .error (.missing path)

-- The working directory with these files in it.
def ofFiles (files : Files) : FileTree := fun l =>
  follow files l.toText (if l.absolute then none else some []) l.parts

end FileTree

end Copybook
