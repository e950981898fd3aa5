import Copybook.Export
import Copybook.Manifest.Validation

/-!
Extracting the records of a dataset that its manifest has nothing against.
-/

namespace Copybook

inductive ExtractionFault
  | noCopybook (name : Text)
  | warned (warnings : List Warning)
  | manifest (fault : ManifestFault)
  | writing (fault : ExportFault)
  deriving Repr

namespace ExtractionFault

def kind : ExtractionFault → FaultKind
  | noCopybook _ | warned _ => .refused
  | manifest fault => fault.kind
  | writing fault => fault.kind

def message : ExtractionFault → Text
  | noCopybook name => "Manifest ".toList ++ name ++ " names no copybook".toList
  | warned warnings =>
    "Manifest validation warnings: ".toList ++ (Value.list (warnings.map fun w => .text w.code)).quoted
  | manifest fault => fault.message
  | writing fault => fault.message

end ExtractionFault

-- The records of a dataset with the report on it, and the files that they go to.
structure Extraction where
  report : Report
  records : List Value
  lines : Text
  linesPath : Location
  table : Table
  tablePath : Location

namespace Manifest

-- The records up to the limit that the manifest sets. A limit that is no number is found out at the first
-- record.
def values (layout : Layout) (limit : Value) (readings : List Reading) :
    Noting ManifestFault (List Value) := do
  let decode (f : Frame) : Except ManifestFault Value := (layout.value f.body).mapError .access
  match limit with
  | .null => Reading.traverse decode readings
  | .bool _ | .int _ | .float _ =>
    let n ← Noting.lift limit.integer
    Reading.traverse decode (Reading.upTo n.toNat readings)
  | v => Reading.traverse (fun _ => Except.error (.wrongType v)) readings

-- The values of the records, each filled up or cut to the length of the layout.
def decode (m : Manifest) (tree : FileTree) (others : Encodings) (copybook : Location) :
    Noting ManifestFault (List Value) := do
  let source ← Noting.lift ((tree.readText copybook).mapError .file)
  let layout ← (Layout.compile source (m.codec others)).mapFault .compile
  let data ← Noting.lift ((tree.read m.path).mapError .file)
  let readings ← Noting.lift ((layout.readDataset m.framing.name none data).mapError .framing)
  let checks ← Noting.lift m.checkSettings
  values layout (checks.get "max_records") readings

-- Extracts the records of the dataset, unless there is something to warn of.
def extract (m : Manifest) (tree : FileTree) (others : Encodings) (folder : Location) :
    Noting ExtractionFault Extraction := do
  match m.copybook with
  | none => throw (.noCopybook m.name)
  | some copybook =>
    let report ← (m.validate tree others).mapFault .manifest
    if !report.warnings.isEmpty then throw (.warned report.warnings)
    let vs ← (m.decode tree others copybook).mapFault .manifest
    let file (ending : String) : Location := (Location.ofText (m.name ++ ending.toList)).within folder
    let raiseFile (x : Except FileFault Unit) : Noting ExtractionFault Unit :=
      Noting.lift (x.mapError fun fault => .manifest (.file fault))
    raiseFile (tree.checkPath (file ".jsonl"))
    let lines ← Noting.lift ((Export.lines vs).mapError .writing)
    let table ← Noting.lift ((Export.table vs).mapError .writing)
    raiseFile (tree.checkPath (file ".arrow"))
    return {
      report := report
      records := vs
      lines := lines
      linesPath := file ".jsonl"
      table := table
      tablePath := file ".arrow" }

end Manifest

end Copybook
