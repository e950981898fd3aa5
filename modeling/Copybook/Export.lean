import Copybook.Dataset.Records
import Copybook.Json.Writer
import Copybook.Table

/-!
The records of a dataset as JSON, as JSON lines and as a table.
-/

namespace Copybook

inductive ExportFault
  | framing (fault : FramingFault)
  | access (fault : AccessFault)
  | table (fault : TableFault)
  | notWritable
  deriving Repr

namespace ExportFault

def kind : ExportFault → FaultKind
  | framing fault => fault.kind
  | access fault => fault.kind
  | table fault => fault.kind
  | notWritable => .notWritable

def message : ExportFault → Text
  | framing fault => fault.message
  | access fault => fault.message
  | table fault => fault.message
  | notWritable => "a value has no JSON form".toList

end ExportFault

namespace Export

-- Values as one JSON list, each member on its own line.
def json (vs : List Value) : Except ExportFault Text :=
  match Json.write .indented (.list vs) with
  | some s => .ok s
  | none => .error .notWritable

-- A value as JSON on a line of its own.
def line (v : Value) : Except ExportFault Text :=
  match Json.write .compact v with
  | some s => .ok (s ++ ['\n'])
  | none => .error .notWritable

def lines : List Value → Except ExportFault Text
  | [] => .ok []
  | v :: vs => do
    let s ← line v
    return s ++ (← lines vs)

def table (vs : List Value) : Except ExportFault Table :=
  (Table.ofValues vs).mapError .table

-- How the records of a dataset are written.
inductive Format
  | values
  | json
  | lines
  | brief
  | table
  deriving DecidableEq, Repr

inductive Document
  | values (vs : List Value)
  | text (count : Nat) (s : Text)
  | table (t : Table)

-- Values in a format.
def values (format : Format) (vs : List Value) : Except ExportFault Document :=
  match format with
  | .values => .ok (.values vs)
  | .json => return .text vs.length (← json vs)
  | .lines => return .text vs.length (← lines vs)
  | .brief =>
    match Json.write .compact (.list vs) with
    | some s => .ok (.text vs.length s)
    | none => .error .notWritable
  | .table => return .table (← table vs)

-- The records of a dataset in a format. Lines are written record by record as they are read; for the
-- others all records are read first. The brief form says of a record only that it cannot be written.
def records (layout : Layout) (readings : List Reading) (format : Format) : Noting ExportFault Document := do
  match format with
  | .lines =>
    let ls ← Reading.traverse (fun f => (layout.value f.body).mapError .access >>= line) readings
    return .text ls.length ls.flatten
  | .brief =>
    let bodies ← Reading.traverse (fun f => Except.ok f.body) readings
    let vs ← Noting.lift (bodies.mapM fun b => (layout.value b).mapError fun _ => ExportFault.notWritable)
    Noting.lift (values .brief vs)
  | format =>
    let vs ← (layout.values readings).mapFault .access
    Noting.lift (values format vs)

end Export

end Copybook
