import Copybook.Decimal.Rounding
import Copybook.Decimal.Binary64
import Copybook.Text.Quoted
import Copybook.Timestamp

/-!
The values that fields are set to and decoded to, and that exports write.
-/

namespace Copybook

-- A floating-point number is its shortest text. `ellipsis` stands for a value of no use as data.
inductive Value
  | null
  | bool (b : Bool)
  | int (i : Int)
  | float (digits : Text)
  | decimal (d : Decimal)
  | text (s : Text)
  | bytes (b : Bytes)
  | time (t : Timestamp)
  | list (items : List Value)
  | record (fields : List (Text × Value))
  | ellipsis
  deriving Inhabited, Repr

namespace Value

mutual

-- The value as messages show it: text between marks, the rest so that its kind can be told.
def quoted : Value → Text
  | null => "None".toList
  | bool b => if b then "True".toList else "False".toList
  | int i => Text.ofInt i
  | float digits => digits
  | decimal d => "Decimal('".toList ++ d.toText ++ "')".toList
  | text s => s.quoted
  | bytes b => b.quoted
  | time t => t.toText ' '
  | list items => '[' :: Text.join ", ".toList (quotedItems items) ++ [']']
  | record fields => '{' :: Text.join ", ".toList (quotedFields fields) ++ ['}']
  | ellipsis => "Ellipsis".toList

def quotedItems : List Value → List Text
  | [] => []
  | v :: vs => v.quoted :: quotedItems vs

def quotedFields : List (Text × Value) → List Text
  | [] => []
  | (name, v) :: fields => (name.quoted ++ ':' :: ' ' :: v.quoted) :: quotedFields fields

end

mutual

-- Whether no whole number in the value has more digits than can be written.
def isShowable (v : Value) (limit : Option Nat := some maxDigits) : Bool :=
  match v with
  | int i => Text.isWritable limit i.natAbs
  | list items => areShowable limit items
  | record fields => fieldsAreShowable limit fields
  | _ => true

def areShowable (limit : Option Nat) : List Value → Bool
  | [] => true
  | v :: vs => v.isShowable limit && areShowable limit vs

def fieldsAreShowable (limit : Option Nat) : List (Text × Value) → Bool
  | [] => true
  | (_, v) :: fields => v.isShowable limit && fieldsAreShowable limit fields

end

-- The value as a text field stores it.
def toText : Value → Text
  | text s => s
  | decimal d => d.toText
  | v => v.quoted

-- Adds a field to a record, or gives the field of that name the new value in its old place.
def put (name : Text) (v : Value) : List (Text × Value) → List (Text × Value)
  | [] => [(name, v)]
  | (n, w) :: fields => if n = name then (n, v) :: fields else (n, w) :: put name v fields

def get? (name : Text) : List (Text × Value) → Option Value
  | [] => none
  | (n, v) :: fields => if n = name then some v else get? name fields

-- The fields with each name once: its last value, at its first place.
def distinct (fields : List (Text × Value)) : List (Text × Value) :=
  fields.foldl (fun acc (name, v) => put name v acc) []

-- Whether a value counts as set: not null, not false, not zero and not empty.
def isSet : Value → Bool
  | null => false
  | bool b => b
  | int i => i != 0
  | float digits => digits != "0.0".toList && digits != "-0.0".toList
  | decimal d => match d with
    | .finite _ coefficient _ => coefficient != 0
    | _ => true
  | text s => !s.isEmpty
  | bytes b => !b.isEmpty
  | time _ => true
  | list items => !items.isEmpty
  | record fields => !fields.isEmpty
  | ellipsis => true

-- The number as an exact decimal; a floating-point number is the binary number nearest to its text.
def number? : Value → Option Decimal
  | bool b => some (.ofInt b.toNat)
  | int i => some (.ofInt i)
  | float digits => (Decimal.ofText? digits).map Binary64.exact
  | decimal d => some d
  | _ => none

-- Whether a decoded scalar equals `v`: equal text, or numbers of equal value. A signaling NaN cannot be
-- compared with a number.
def sameScalar (scalar v : Value) : Except Decimal.Fault Bool :=
  match scalar, v with
  | text s, text t => .ok (s == t)
  | text _, _ => .ok false
  | _, decimal (.nan _ true _) => .error .invalidOperation
  | s, v =>
    match s.number?, v.number? with
    | some a, some b => .ok (a.same b)
    | _, _ => .ok false

end Value

end Copybook
