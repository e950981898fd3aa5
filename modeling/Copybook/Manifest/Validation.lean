import Copybook.Digest
import Copybook.Manifest.Basic

/-!
Checking a dataset against its manifest. What is wrong with the dataset is collected in a report, so that one
report covers all of it; only settings that cannot be used at all end the check.
-/

namespace Copybook

inductive Warning
  | fileMissing
  | hashMismatch
  | copybookMissing
  | copybookInvalid
  | lengthMismatch
  | lengthUnknown
  | trailingBytes
  | tooManyRecords
  | decodeErrors
  deriving DecidableEq, Repr

def Warning.code : Warning → Text
  | fileMissing => "file_missing".toList
  | hashMismatch => "hash_mismatch".toList
  | copybookMissing => "copybook_missing".toList
  | copybookInvalid => "copybook_invalid".toList
  | lengthMismatch => "lrecl_mismatch".toList
  | lengthUnknown => "record_length_unknown".toList
  | trailingBytes => "trailing_bytes".toList
  | tooManyRecords => "too_many_records".toList
  | decodeErrors => "decode_errors".toList

structure Report where
  manifest : Manifest
  size : Option Nat
  recordLength : Option Nat := none
  digest : Option Text := none
  digestMatches : Option Bool := none
  records : Nat := 0
  decoded : Nat := 0
  errors : List Text := []
  warnings : List Warning := []
  limit : Option Int := none

namespace Report

def warn (r : Report) (w : Warning) : Report :=
  { r with warnings := r.warnings ++ [w] }

-- A warning if it applies.
def warnIf (r : Report) (applies : Bool) (w : Warning) : Report :=
  if applies then r.warn w else r

-- The report as a record, in the order in which it is shown.
def toValue (r : Report) : Value :=
  let text? : Option Text → Value
    | some s => .text s
    | none => .null
  let count (n : Nat) : Value := .int n
  .record ([
    ("name".toList, .text r.manifest.name),
    ("path".toList, .text r.manifest.path.toText),
    ("exists".toList, .bool r.size.isSome),
    ("size_bytes".toList, count (r.size.getD 0)),
    ("codepage".toList, .text r.manifest.codePage),
    ("framing".toList, .text r.manifest.framing.name),
    ("lrecl".toList, r.manifest.length),
    ("copybook".toList, text? (r.manifest.copybook.map Location.toText)),
    ("record_length".toList, (r.recordLength.map count).getD .null),
    ("hash_expected".toList, r.manifest.hash),
    ("hash_actual".toList, text? r.digest),
    ("hash_match".toList, (r.digestMatches.map Value.bool).getD .null),
    ("records".toList, count r.records),
    ("decoded".toList, count r.decoded),
    ("decode_errors".toList, .list (r.errors.map Value.text)),
    ("warnings".toList, .list (r.warnings.map fun w => .text w.code))] ++
    match r.limit with
    | some limit => [("records_capped".toList, .int limit)]
    | none => [])

end Report

-- The whole number that a setting stands for; a fraction is cut off.
def Value.integer : Value → Except ManifestFault Int
  | .bool b => .ok b.toNat
  | .int i => .ok i
  | .float digits =>
    match Value.number? (.float digits) with
    | some (.finite negative coefficient exponent) =>
      let whole : Nat := coefficient * 10 ^ exponent.toNat / 10 ^ (-exponent).toNat
      .ok (if negative then -(whole : Int) else whole)
    | some (.infinity _) => .error .infinite
    | _ => .error (.notInteger (.float digits))
  | .text s =>
    match Text.readInteger s with
    | .ok i => .ok i
    | .error .malformed => .error (.notInteger (.text s))
    | .error (.digits fault) => .error (.digits fault)
  | v => .error (.wrongType v)

namespace Manifest

-- The first `n` of a list, or all but the last ones if `n` is negative.
def firstOf {α : Type} (n : Int) (as : List α) : List α :=
  as.take (if n < 0 then n + as.length else n).toNat

-- The algorithm that a hash is made with, and the form in which a digest equals it.
def expectedDigest : Value → Except ManifestFault (Text × Text)
  | .text s =>
    match Text.cutAt? ':' s with
    | some (algorithm, _) => .ok (algorithm, s)
    | none => .ok ("sha256".toList, "sha256:".toList ++ s)
  | .list items =>
    if items.any fun | .text s => s == [':'] | _ => false then .error (.notText (.list items))
    else .ok ("sha256".toList, "sha256:".toList ++ (Value.list items).toText)
  | .record fields =>
    if fields.any fun f => f.1 == [':'] then .error (.notText (.record fields))
    else .ok ("sha256".toList, "sha256:".toList ++ (Value.record fields).toText)
  | v => .error (.wrongType v)

-- Compares the digest of the dataset with the hash it should have, if there is one.
def checkHash (m : Manifest) (tree : FileTree) (r : Report) : Except ManifestFault Report := do
  if !m.hash.isSet then return r
  let (name, expected) ← expectedDigest m.hash
  match Digest.Algorithm.ofName? name with
  | none => throw (.unknownDigest name)
  | some algorithm =>
    let content ← (tree.read m.path).mapError .file
    let actual := name ++ ':' :: Bytes.toHex (algorithm.digest content)
    let r := { r with digest := some actual, digestMatches := some (actual == expected) }
    return r.warnIf (actual != expected) .hashMismatch

-- Whether a length that is given is another one than that of the layout.
def differs (length : Value) (n : Nat) : Bool :=
  match length with
  | .null => false
  | v =>
    match v.number? with
    | some d => !d.same (.ofInt n)
    | none => true

-- Compiles the copybook, if there is one. That it does not compile is something to report; that its text
-- cannot be converted at all is not.
def checkCopybook (m : Manifest) (tree : FileTree) (others : Encodings) (r : Report) :
    Noting ManifestFault (Report × Option Layout) := do
  match m.copybook with
  | none => return (r, none)
  | some copybook =>
    match ← Noting.lift ((tree.entry? copybook).mapError .file) with
    | none => return (r.warn .copybookMissing, none)
    | some _ =>
      let source ← Noting.lift ((tree.readText copybook).mapError .file)
      match ← Noting.attempt (Layout.compile source (m.codec others)) with
      | .ok layout =>
        let r := { r with recordLength := some layout.length }
        return (r.warnIf (differs m.length layout.length) .lengthMismatch, some layout)
      | .error fault =>
        if fault.kind.isCopybookFault then
          Noting.note (.invalidCopybook copybook.toText fault.message)
          return ({ r.warn .copybookInvalid with errors := r.errors ++ [fault.message] }, none)
        else throw (.compile fault)

-- The length of the records: the one that is given, else that of the layout.
def recordLength (m : Manifest) (layout : Option Layout) : Value :=
  if m.length.isSet then m.length
  else match layout with
    | some layout => .int layout.length
    | none => .null

-- A length as a number.
def lengthOf : Value → Except ManifestFault Int
  | .bool b => .ok b.toNat
  | .int i => .ok i
  | .float digits =>
    if digits.head? = some '-' then .error (.lengthNotPositive digits) else .error (.wrongType (.float digits))
  | v => .error (.wrongType v)

-- What comes up when the dataset is read in the framing of the manifest.
def readings (m : Manifest) (length : Value) (data : Bytes) : Except ManifestFault (List Reading) := do
  let length ← match m.framing with
    | .fixed => some <$> lengthOf length
    | _ => pure none
  (m.framing.read length data).mapError .framing

-- Whether bytes are left after the last record of records of one length.
def hasTrailing (m : Manifest) (length : Value) (data : Bytes) : Bool :=
  match m.framing, lengthOf length with
  | .fixed, .ok n => (data.length : Int) % n != 0
  | _, _ => false

-- The checks that are asked for.
def checkSettings (m : Manifest) : Except ManifestFault Settings :=
  if m.checks.isSet then Settings.ofValue m.checks else .ok []

-- How many records at most are looked at, if that is limited.
def limit (checks : Settings) : Except ManifestFault (Option Int) :=
  let v := checks.get "max_records"
  if v.isSet then some <$> v.integer else .ok none

-- How many records are decoded.
def sampleSize (checks : Settings) : Except ManifestFault Int :=
  ((Value.get? "decode_sample".toList checks).getD (.int 5)).integer

-- What is wrong with a record, if anything is. A fault that no copybook and no record has is passed on.
def problem (layout : Layout) (body : Bytes) : Except ManifestFault (Option Text) :=
  if body.length < layout.length then .ok (some (Text.ofNat body.length ++ " bytes is short".toList))
  else match layout.value body with
    | .ok _ => .ok none
    | .error fault => if fault.kind.isCopybookFault then .ok (some fault.message) else .error (.access fault)

-- Decodes records, the first of them being number `index`: how many can be decoded, and what is wrong with
-- the others.
def decodeSample (layout : Layout) (index : Nat) : List Bytes → Except ManifestFault (Nat × List Text)
  | [] => .ok (0, [])
  | body :: bodies => do
    let p ← problem layout body
    let (decoded, errors) ← decodeSample layout (index + 1) bodies
    match p with
    | none => return (decoded + 1, errors)
    | some s => return (decoded, ("record ".toList ++ Text.ofNat index ++ ": ".toList ++ s) :: errors)

-- Decodes the first records with the layout.
def checkSample (layout : Layout) (checks : Settings) (bodies : List Bytes) (r : Report) :
    Except ManifestFault Report := do
  let size ← sampleSize checks
  let (decoded, errors) ← decodeSample layout 0 (firstOf size bodies)
  let r := { r with decoded := decoded, errors := r.errors ++ errors }
  return r.warnIf (!r.errors.isEmpty) .decodeErrors

-- Reads the dataset and counts and decodes its records.
def checkRecords (m : Manifest) (tree : FileTree) (layout : Option Layout) (r : Report) :
    Noting ManifestFault Report := do
  let length := m.recordLength layout
  if m.framing = .fixed ∧ !length.isSet then return r.warn .lengthUnknown
  let data ← Noting.lift ((tree.read m.path).mapError .file)
  let readings ← Noting.lift (m.readings length data)
  let bodies ← Reading.traverse (fun f => Except.ok f.body) readings
  let r := { r with records := bodies.length }
  let r := r.warnIf (m.hasTrailing length data) .trailingBytes
  let checks ← Noting.lift m.checkSettings
  let limit ← Noting.lift (limit checks)
  let r := r.warnIf (limit.any fun n => decide (n < (bodies.length : Int))) .tooManyRecords
  let r := { r with limit := limit }
  let bodies := match limit with
    | some n => firstOf n bodies
    | none => bodies
  match layout with
  | some layout => Noting.lift (checkSample layout checks bodies r)
  | none => return r

-- The report on the dataset of a manifest.
def validate (m : Manifest) (tree : FileTree) (others : Encodings) : Noting ManifestFault Report := do
  let entry ← Noting.lift ((tree.entry? m.path).mapError .file)
  let r : Report := { manifest := m, size := entry.map FileEntry.size }
  if r.size.isNone then return r.warn .fileMissing
  let r ← Noting.lift (m.checkHash tree r)
  let (r, layout) ← m.checkCopybook tree others r
  m.checkRecords tree layout r

end Manifest

end Copybook
