import Copybook.Dataset.Framing
import Copybook.FileTree
import Copybook.Json.Reader
import Copybook.Layout.Placement
import Copybook.Record.Access
import Copybook.Text.Case
import Copybook.Yaml.Document

/-!
Manifests: what a dataset is said to be, read from settings.
-/

namespace Copybook

-- Lengths, hashes, notes and checks are kept as they are given, and looked at only when they are used.
structure Manifest where
  name : Text
  path : Location
  copybook : Option Location
  codePage : Text
  framing : Framing
  length : Value
  trim : Bool
  hash : Value
  notes : Value
  checks : Value

inductive ManifestFault
  | file (fault : FileFault)
  | json (fault : Json.Fault)
  | yaml (fault : Yaml.Fault)
  | noSettings
  | missing (setting : Text)
  | wrongType (value : Value)
  | notText (value : Value)
  | unknownFraming (name : Text)
  | unknownDigest (name : Text)
  | notInteger (value : Value)
  | digits (fault : DigitFault)
  | infinite
  | lengthNotPositive (digits : Text)
  | framing (fault : FramingFault)
  | compile (fault : CompileFault)
  | access (fault : AccessFault)
  deriving Repr

namespace ManifestFault

def kind : ManifestFault → FaultKind
  | file fault => fault.kind
  | json fault => fault.kind
  | yaml fault => fault.kind
  | noSettings | notText _ => .notOffered
  | missing _ => .missingKey
  | wrongType _ => .wrongType
  | unknownFraming _ | unknownDigest _ | notInteger _ | lengthNotPositive _ => .badSetting
  | digits _ => .tooManyDigits
  | infinite => .numberTooWide
  | framing fault => fault.kind
  | compile fault => fault.kind
  | access fault => fault.kind

def message : ManifestFault → Text
  | file fault => fault.message
  | json fault => fault.message
  | yaml fault => fault.message
  | noSettings => "no settings".toList
  | missing setting => setting.quoted
  | wrongType value => value.quoted ++ " has a wrong type".toList
  | notText value => value.quoted ++ " is no text".toList
  | unknownFraming name =>
    "framing must be one of ('fixed', 'rdw', 'bdw'), got '".toList ++ name ++ ['\'']
  | unknownDigest name => "unsupported hash type ".toList ++ name
  | notInteger (.float _) => "cannot convert float NaN to integer".toList
  | notInteger value => "invalid literal for int() with base 10: ".toList ++ value.quoted
  | digits fault => fault.message
  | infinite => "infinite".toList
  | lengthNotPositive shown => "record length must be positive, got ".toList ++ shown
  | framing fault => fault.message
  | compile fault => fault.message
  | access fault => fault.message

end ManifestFault

-- Named settings, in their order.
abbrev Settings := List (Text × Value)

namespace Settings

-- A setting that is not there is null.
def get (settings : Settings) (name : String) : Value :=
  (Value.get? name.toList settings).getD .null

def required (settings : Settings) (name : String) : Except ManifestFault Value :=
  match Value.get? name.toList settings with
  | some v => .ok v
  | none => .error (.missing name.toList)

-- The settings that a value is.
def ofValue : Value → Except ManifestFault Settings
  | .record settings => .ok settings
  | _ => .error .noSettings

end Settings

namespace Manifest

def codec (m : Manifest) (others : Encodings) : Codec :=
  { page := m.codePage, others := others, trim := m.trim }

-- A path, as seen from `base` if that is given.
def location (base : Option Location) : Value → Except ManifestFault Location
  | .text s =>
    let l := Location.ofText s
    .ok (match base with | some folder => l.within folder | none => l)
  | v => .error (.wrongType v)

-- The text of a setting that may be given as a number.
def textOf (v : Value) : Except ManifestFault Text :=
  if v.isShowable then .ok v.toText else .error (.digits .written)

-- The framing that the settings name. Without a name they may say only that there are blocks.
def framingName (settings : Settings) : Except ManifestFault Text :=
  match settings.get "framing" with
  | .null => .ok (if (settings.get "bdw").isSet then Framing.blocks.name else Framing.fixed.name)
  | v => (textOf v).map Text.lower

def ofSettings (base : Option Location) (settings : Settings) : Except ManifestFault Manifest := do
  let name ← textOf (← settings.required "name")
  let path ← location base (← settings.required "path")
  let copybook ←
    if (settings.get "copybook").isSet then some <$> location base (settings.get "copybook") else pure none
  let orElse (name : String) (v : Value) : Value := (Value.get? name.toList settings).getD v
  let codePage ← textOf (orElse "codepage" (.text "cp037".toList))
  let named ← framingName settings
  let framing ← match Framing.ofName? named with
    | some framing => pure framing
    | none => throw (.unknownFraming named)
  return {
    name := name
    path := path
    copybook := copybook
    codePage := codePage
    framing := framing
    length := settings.get "lrecl"
    trim := (orElse "trim" (.bool true)).isSet
    hash := settings.get "hash"
    notes := settings.get "notes"
    checks := settings.get "checks" }

def ofValue (base : Option Location) (v : Value) : Except ManifestFault Manifest := do
  ofSettings base (← Settings.ofValue v)

-- Whether the name of a file says that it holds YAML.
def isYaml (l : Location) : Bool :=
  let suffix := Text.lower l.suffix
  suffix == ".yml".toList || suffix == ".yaml".toList

-- The manifest in a file, its paths being seen from the folder that the file is in.
def load (tree : FileTree) (l : Location) : Except ManifestFault Manifest := do
  let s ← (tree.readText l).mapError .file
  let v ←
    if isYaml l then (Yaml.read s).mapError .yaml else (Json.read s).mapError .json
  ofValue (some l.parent) v

-- A template to edit.
def sample : Value :=
  .record [
    ("name".toList, .text "customers_cp037".toList),
    ("path".toList, .text "data/customers.bin".toList),
    ("copybook".toList, .text "copybooks/customer.cpy".toList),
    ("codepage".toList, .text "cp037".toList),
    ("framing".toList, .text "fixed".toList),
    ("lrecl".toList, .null),
    ("trim".toList, .bool true),
    ("hash".toList, .text "sha256:<hex>".toList),
    ("notes".toList, .text "edit with real details".toList),
    ("checks".toList, .record [("max_records".toList, .int 20000), ("decode_sample".toList, .int 5)])]

end Manifest

end Copybook
