import Copybook.Fault
import Copybook.Text.Utf8

/-!
Tables with typed columns, made from records. The first record names the columns; the values say what
their types are.
-/

namespace Copybook

inductive ColumnType
  | null
  | bool
  | int
  | float
  | bytes
  | text
  | list (item : ColumnType)
  | record (fields : List (Text × ColumnType))
  deriving Inhabited, Repr

inductive TableFault
  | mixed
  | unfit
  | outOfRange (i : Int)
  | undecodable
  deriving DecidableEq, Repr

namespace TableFault

def kind : TableFault → FaultKind
  | mixed => .mixedColumn
  | unfit => .unfitForColumn
  | outOfRange _ => .numberTooWide
  | undecodable => .undecodable

def message : TableFault → Text
  | mixed => "a column holds values of one type".toList
  | unfit => "a column holds no value that cannot be one of its type".toList
  | outOfRange i => Text.ofInt i ++ " does not fit 64 bits".toList
  | undecodable => "a column of texts holds bytes that are not UTF-8".toList

end TableFault

namespace ColumnType

mutual

def name : ColumnType → Text
  | null => "null".toList
  | bool => "bool".toList
  | int => "int64".toList
  | float => "double".toList
  | bytes => "binary".toList
  | text => "string".toList
  | list item => "list<item: ".toList ++ item.name ++ ['>']
  | record fields => "struct<".toList ++ Text.join ", ".toList (fieldNames fields) ++ ['>']

def fieldNames : List (Text × ColumnType) → List Text
  | [] => []
  | (n, t) :: fields => (n ++ ": ".toList ++ t.name) :: fieldNames fields

end

-- Of two plain types that meet in a column, the one of higher rank is the type of the column.
def rank : ColumnType → Nat
  | null => 0
  | text => 1
  | bytes => 2
  | bool => 3
  | int => 4
  | float => 5
  | list _ | record _ => 6

mutual

-- The type of a column that holds values of two types. Lists and records go only with their like.
def join : ColumnType → ColumnType → Option ColumnType
  | list s, t =>
    match t with
    | null => some (list s)
    | list t => (join s t).map list
    | _ => none
  | record fs, t =>
    match t with
    | null => some (record fs)
    | record gs => do
      let joined ← joinFields fs gs
      return record (joined ++ gs.filter fun g => !fs.any fun f => f.1 == g.1)
    | _ => none
  | s, t =>
    match t with
    | list _ | record _ => if s.rank = 0 then some t else none
    | t => some (if s.rank < t.rank then t else s)

-- Each field joined with the field of the same name.
def joinFields : List (Text × ColumnType) → List (Text × ColumnType) → Option (List (Text × ColumnType))
  | [], _ => some []
  | (n, s) :: fs, gs => do
    let t ← match gs.lookup n with
      | some t => join s t
      | none => some s
    return (n, t) :: (← joinFields fs gs)

end

-- A value of one of these kinds settles the type of the column: those after it are not looked at.
def settles : Value → Bool
  | .bool _ | .float _ | .bytes _ | .text _ => true
  | _ => false

mutual

-- The type of a column with this one value.
def ofValue : Value → Option ColumnType
  | .null => some null
  | .bool _ => some bool
  | .int _ => some int
  | .float _ => some float
  | .decimal _ => some text
  | .text _ => some text
  | .bytes _ => some bytes
  | .time _ => none
  | .list items => (ofValues items).map list
  | .record fields => (ofFields fields).map record
  | .ellipsis => none

-- The type of a column with these values.
def ofValues : List Value → Option ColumnType
  | [] => some null
  | v :: vs => do
    let t ← ofValue v
    if settles v then return t else join t (← ofValues vs)

def ofFields : List (Text × Value) → Option (List (Text × ColumnType))
  | [] => some []
  | (n, v) :: fields => do
    let t ← ofValue v
    return (n, t) :: (← ofFields fields)

end

-- An integer of 64 bits.
def integer (i : Int) : Except TableFault Int :=
  if -(2 ^ 63) ≤ i ∧ i < 2 ^ 63 then .ok i else .error (.outOfRange i)

-- Integers that a floating-point number can be without rounding.
def isExactFloat (i : Int) : Bool :=
  i.natAbs ≤ 2 ^ 53

-- A plain value as one of a plain type. Truth values are no numbers.
def convertPlain (type : ColumnType) (v : Value) : Except TableFault Value :=
  match type, v with
  | _, .null => .ok .null
  | .bool, .bool b => .ok (.bool b)
  | .int, .bool _ => .error .unfit
  | .int, .int i => (integer i).map Value.int
  | .float, .float digits => .ok (.float digits)
  | .float, .bool _ => .error .unfit
  | .float, .int i => do
    if isExactFloat (← integer i) then return .float (Text.ofInt i ++ ".0".toList) else throw .mixed
  | .bytes, .bytes b => .ok (.bytes b)
  | .bytes, .text s => .ok (.bytes (Utf8.encode s))
  | .bytes, _ => .error .unfit
  | .text, .text s => .ok (.text s)
  | .text, .bytes b =>
    match Utf8.decode? b with
    | some s => .ok (.text s)
    | none => .error .undecodable
  | .text, _ => .error .unfit
  | _, _ => .error .mixed

mutual

-- A value as one of a type. What a record does not have is null.
def convert (type : ColumnType) (v : Value) : Except TableFault Value :=
  match type with
  | .list item =>
    match v with
    | .list vs => do return .list (← vs.mapM fun v => convert item v)
    | v => convertPlain type v
  | .record types =>
    match v with
    | .record fields => do return .record (← convertFields types fields)
    | v => convertPlain type v
  | type => convertPlain type v

def convertFields (types : List (Text × ColumnType)) (fields : List (Text × Value)) :
    Except TableFault (List (Text × Value)) :=
  match types with
  | [] => .ok []
  | (n, type) :: types => do
    let v ← convert type ((Value.get? n fields).getD .null)
    return (n, v) :: (← convertFields types fields)

end

end ColumnType

structure Column where
  name : Text
  type : ColumnType
  values : List Value

structure Table where
  columns : List Column
  rows : List (List (Text × Value))

namespace Table

mutual

-- Decimals as texts, so that each keeps its own digits.
def plain : Value → Value
  | .decimal d => .text d.toText
  | .list items => .list (plainItems items)
  | .record fields => .record (plainFields fields)
  | v => v

def plainItems : List Value → List Value
  | [] => []
  | v :: vs => plain v :: plainItems vs

def plainFields : List (Text × Value) → List (Text × Value)
  | [] => []
  | (n, v) :: fields => (n, plain v) :: plainFields fields

end

-- A column of texts becomes one of bytes if there are bytes in it.
def widened (vs : List Value) : ColumnType → ColumnType
  | .text => if vs.any fun | .bytes _ => true | _ => false then .bytes else .text
  | type => type

def column (rows : List (List (Text × Value))) (name : Text) : Except TableFault Column := do
  let vs := rows.map fun row => (Value.get? name row).getD .null
  match ColumnType.ofValues vs with
  | none => throw .mixed
  | some type =>
    let type := widened vs type
    return ⟨name, type, ← vs.mapM type.convert⟩

-- The rows of columns of one length. Without columns there are no rows.
def transpose : List Column → List (List (Text × Value))
  | [] => []
  | [c] => c.values.map fun v => [(c.name, v)]
  | c :: cs => List.zipWith (fun v row => (c.name, v) :: row) c.values (transpose cs)

-- The table of these records.
def ofRows (rows : List (List (Text × Value))) : Except TableFault Table := do
  let rows := rows.map plainFields
  let columns ← ((rows.head?.getD []).map (·.1)).mapM (column rows)
  return ⟨columns, transpose columns⟩

-- The table of values that are records.
def ofValues (vs : List Value) : Except TableFault Table :=
  ofRows (vs.map fun | .record fields => fields | _ => [])

end Table

end Copybook
