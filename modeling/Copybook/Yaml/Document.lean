import Copybook.Decimal.Shortest
import Copybook.Text.Case
import Copybook.Yaml.Node
import Copybook.Yaml.Tag

/-!
Reading values from YAML documents.
-/

namespace Copybook.Yaml

-- The number whose digits in a base these are.
def inBase (base : Nat) (s : Text) : Except Fault Nat := do
  if s.isEmpty then throw (.notInteger base s)
  s.foldlM (fun n c =>
    match Bytes.hexValue? c with
    | some d => if d < base then return n * base + d else throw (.notInteger base s)
    | none => throw (.notInteger base s)) 0

def inTen (s : Text) : Except Fault Nat :=
  if s.isEmpty || !s.all isAsciiDigit then throw (.notInteger 10 s)
  else (Text.readNat s).mapError .digits

-- Each part counts sixty times as much as the one after it.
def inSixty (parts : List Text) : Except Fault Nat :=
  parts.foldlM (fun n part => do return n * 60 + (← inTen part)) 0

-- The whole number that a text is. Low lines say nothing.
def intOf (s : Text) : Except Fault Int := do
  let (negative, body) := Text.takeSign (s.filter (· != '_'))
  let n ← match body with
    | ['0'] => pure 0
    | '0' :: 'b' :: digits => inBase 2 digits
    | '0' :: 'x' :: digits => inBase 16 digits
    | '0' :: _ => inBase 8 body
    | _ => if body.contains ':' then inSixty (Text.splitOn ':' body) else inTen body
  return Text.signed negative n

-- A binary number that `part` times sixty to `power` is added to, each step giving the nearest one.
def addSixties (sum : Decimal) (part : Decimal) (power : Nat) : Decimal :=
  match Binary64.exact part, Binary64.exact (.finite false (60 ^ power) 0), sum with
  | .finite _ c e, .finite _ base f, .finite _ d g =>
    match Binary64.exact (.finite false (c * base) (e + f)) with
    | .finite _ c e =>
      let low := min e g
      Binary64.exact (.finite false (c * 10 ^ (e - low).toNat + d * 10 ^ (g - low).toNat) low)
    | product => product
  | _, _, _ => .infinity false

def magnitude (s : Text) : Except Fault Decimal :=
  match Decimal.unsigned? s with
  | some (c, e) => return .finite false c e
  | none => throw (.notFloat s)

def negated (negative : Bool) : Decimal → Decimal
  | .finite _ c e => .finite negative c e
  | .infinity _ => .infinity negative
  | d => d

-- The text of the floating-point number that a text is.
def floatOf (s : Text) : Except Fault Text := do
  let (negative, body) := Text.takeSign (Text.lower (s.filter (· != '_')))
  if body = ".inf".toList then return if negative then "-inf".toList else "inf".toList
  else if body = ".nan".toList then return "nan".toList
  else if body.contains ':' then
    let parts ← (Text.splitOn ':' body).mapM magnitude
    let sum := parts.reverse.zipIdx.foldl (fun sum (part, power) => addSixties sum part power) (.finite false 0 0)
    return Binary64.toText (negated negative sum)
  else return Binary64.toText (negated negative (← magnitude body))

def boolOf (s : Text) : Except Fault Bool :=
  let word := String.ofList (Text.lower s)
  if word ∈ Tag.trues then return true
  else if word ∈ Tag.falses then return false
  else throw (.notBool (Text.lower s))

-- The value of a scalar of some kind.
def scalarValue (tag : Tag) (s : Text) : Except Fault Value :=
  match tag with
  | .null => return .null
  | .bool => return .bool (← boolOf s)
  | .int => return .int (← intOf s)
  | .float => return .float (← floatOf s)
  | .timestamp =>
    match Timestamp.ofText? s with
    | some t => return .time (← t.check.mapError .timestamp)
    | none => throw .valueless
  | .text => return .text s
  | .sequence | .mapping | .merge | .standIn | .other => throw .valueless

-- The name of a field. Numbers and words are names too, collections are not.
def nameOf : Value → Except Fault Text
  | .null => return "null".toList
  | .bool b => return if b then "true".toList else "false".toList
  | .list _ | .record _ => throw .valueless
  | v => return v.toText

def isMerge : Node → Bool
  | .scalar tag plain s => Tag.ofScalar tag plain s == .merge
  | _ => false

mutual

def Node.value : Node → Except Fault Value
  | .scalar tag plain s => scalarValue (Tag.ofScalar tag plain s) s
  | .sequence tag items => do
    if tag.any (Tag.ofText · != .sequence) then throw .valueless
    return .list (← values items)
  | .mapping tag fs => do
    if tag.any (Tag.ofText · != .mapping) then throw .valueless
    let (taken, own) ← fields fs
    return .record (Value.distinct (taken ++ own))
  | .unfinished => throw .valueless

def values : List Node → Except Fault (List Value)
  | [] => return []
  | n :: ns => do
    let v ← n.value
    return v :: (← values ns)

-- The name that a node is.
def Node.name : Node → Except Fault Text
  | .scalar tag plain s =>
    let kind := Tag.ofScalar tag plain s
    if kind == .standIn then return s
    else do nameOf (← scalarValue kind s)
  | _ => throw .valueless

-- The fields that are taken over from other mappings, and those that a mapping has itself.
def fields : List (Node × Node) → Except Fault (List (Text × Value) × List (Text × Value))
  | [] => return ([], [])
  | (key, n) :: rest => do
    if isMerge key then
      let here ← n.taken
      let (taken, own) ← fields rest
      return (here ++ taken, own)
    else
      let name ← key.name
      let v ← n.value
      let (taken, own) ← fields rest
      return (taken, (name, v) :: own)

-- The fields of a mapping, or of several, those of the first one coming last.
def Node.taken : Node → Except Fault (List (Text × Value))
  | .mapping _ fs => do
    let (taken, own) ← fields fs
    return taken ++ own
  | .sequence _ items => allTaken items
  | _ => throw .valueless

def allTaken : List Node → Except Fault (List (Text × Value))
  | [] => return []
  | .mapping _ fs :: rest => do
    let (taken, own) ← fields fs
    return (← allTaken rest) ++ taken ++ own
  | _ :: _ => throw .valueless

end

-- The value that a text is the YAML form of. A text without a document stands for null.
def read (s : Text) : Except Fault Value := do
  match ← Node.ofText s with
  | some root => root.value
  | none => return .null

end Copybook.Yaml
