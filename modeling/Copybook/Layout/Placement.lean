import Copybook.Layout.Initial
import Copybook.Layout.Node
import Copybook.Layout.Outline
import Copybook.Notice

/-!
Laying out a record: every item gets its offset and its length.

The members of a group follow one another, each with the space of all its occurrences. An item that
redefines another starts where that one starts and takes no space of its own.
-/

namespace Copybook

-- Why a copybook does not compile: a fault in the source, or a failure underneath that only an initial value
-- can meet.
inductive CompileFault
  | source (e : SourceError)
  | field (fault : FieldFault)
  deriving Repr

namespace CompileFault

def kind : CompileFault → FaultKind
  | source e => e.kind
  | field fault => fault.kind

def message : CompileFault → Text
  | source e => e.message
  | field fault => fault.message

end CompileFault

namespace Layout

abbrev Placing := Noting CompileFault

def refuse {α : Type} (d : Declaration) (fault : SourceFault) : Placing α :=
  throw (.source ⟨fault, d.line⟩)

-- The bytes of the declared value. A literal that does not fit is a fault of the declaration.
def initial (codec : Codec) (d : Declaration) (type : FieldType) : Placing (Option Bytes) :=
  match d.value with
  | none => return none
  | some literal =>
    match Initial.encode literal type type.length codec with
    | .ok b => return some b
    | .error fault =>
      if fault.kind.isCopybookFault then refuse d (.initialValue literal fault) else throw (.field fault)

-- The nearest earlier sibling that an item redefines.
def target? (earlier : List Node) (d : Declaration) : Placing (Option Node) :=
  match d.redefines with
  | none => return none
  | some name =>
    match earlier.find? fun sibling => sibling.name == name with
    | some sibling => return some sibling
    | none => refuse d (.noTarget d.name name)

def fieldType (d : Declaration) (format : Text) : Placing FieldType :=
  match Picture.classify format with
  | .ok type => return type
  | .error fault => refuse d (.ofPicture format fault)

def occurring (d : Declaration) (element : Node) : Node :=
  match d.occurs with
  | none => element
  | some count => .array count element

-- Notes a redefinition that is longer than what it redefines.
def compare (d : Declaration) (target : Option Node) (n : Node) : Placing Unit :=
  match target with
  | none => return
  | some t =>
    if t.length < n.length then Noting.note (.longerRedefinition d.name t.name n.length t.length)
    else return

-- Where the next item starts.
def advance (cursor : Nat) (d : Declaration) (n : Node) : Nat :=
  if d.redefines.isSome then cursor else cursor + n.length

mutual

-- The node of an item, `cursor` being the end of what comes before it and `earlier` its earlier siblings,
-- the nearest first.
def place (codec : Codec) (earlier : List Node) (cursor : Nat) : Outline → Placing Node
  | .item d members => do
    let target ← target? earlier d
    let offset := (target.map Node.offset).getD cursor
    match d.picture with
    | some format =>
      let type ← fieldType d format
      let n := occurring d (.field ⟨d.name, offset, d.redefines, d.value, ← initial codec d type⟩ type)
      compare d target n
      match members with
      | [] => return n
      | m :: _ => refuse m.declaration (.heldByField d.name m.declaration.name)
    | none =>
      let (nodes, stop) ← placeAll codec [] offset members
      let length := stop - offset
      if nodes.isEmpty then Noting.note (.emptyGroup d.name)
      let bytes ← initial codec d (.text length false)
      let n := occurring d (.group ⟨d.name, offset, d.redefines, d.value, bytes⟩ length nodes)
      compare d target n
      return n

-- The nodes of siblings, and where the last of them ends.
def placeAll (codec : Codec) (earlier : List Node) (cursor : Nat) :
    List Outline → Placing (List Node × Nat)
  | [] => return ([], cursor)
  | o :: os => do
    let n ← place codec earlier cursor o
    let (ns, stop) ← placeAll codec (n :: earlier) (advance cursor o.declaration n) os
    return (n :: ns, stop)

end

-- The layout of the record that the declarations describe.
def ofDeclarations (declarations : List Declaration) (codec : Codec) : Placing Layout := do
  let (members, length) ← placeAll codec [] 0 (Outline.ofDeclarations declarations)
  return { length, members, declarations, codec }

-- The layout of a copybook given by its statements.
def ofStatements (statements : List Text) (codec : Codec) : Placing Layout := do
  ofDeclarations (← Noting.lift ((Source.declarations statements).mapError .source)) codec

-- The layout of a copybook.
def compile (source : Text) (codec : Codec) : Placing Layout :=
  ofStatements (Source.statements source) codec

end Layout

end Copybook
