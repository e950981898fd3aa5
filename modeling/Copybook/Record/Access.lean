import Copybook.Layout.Path

/-!
Access to the fields of a record by name and index, over bytes that may change between two accesses.

An accessor stands at a group or at the occurrences of an array. How a field is read and an accessor is come by
is a parameter, so the same navigation serves a record that goes to the bytes each time and one that remembers.
-/

namespace Copybook

inductive AccessFault
  | notAName (key : Value)
  | unknownName (name group : Text)
  | notAnIndex (key : Value)
  | outOfRange (index : Int) (array : Text) (count : Nat)
  | groupAssigned (name : Text) (value : Value)
  | elementAssigned (array : Text) (index : Int) (value : Value)
  | pastEnd (field : Text) (stop size : Nat)
  | tooShort (size needs : Nat)
  | shortReply (program : Text) (size needs : Nat)
  | field (fault : FieldFault)
  | notAccessor
  | notOffered
  deriving Repr

namespace AccessFault

def kind : AccessFault → FaultKind
  | notAName key | notAnIndex key => FaultKind.unknownField.showing key
  | outOfRange index .. => FaultKind.unknownField.showing (.int index)
  | unknownName .. => .unknownField
  | groupAssigned _ value | elementAssigned _ _ value => FaultKind.invalidAssignment.showing value
  | pastEnd .. | tooShort .. | shortReply .. => .recordLength
  | field fault => fault.kind
  | notAccessor => .notAccessor
  | notOffered => .notOffered

def message : AccessFault → Text
  | notAName key => key.ifShown <| key.quoted ++ " is not a field name".toList
  | unknownName name group => '\'' :: name ++ "' is not a field of ".toList ++ group
  | notAnIndex key => key.ifShown <| key.quoted ++ " is not an occurrence index".toList
  | outOfRange index array count =>
    Value.ifShown (.int index) <|
      "index ".toList ++ Text.ofInt index ++ " is out of range for ".toList ++ array ++ " (".toList ++
        Text.ofNat count ++ " occurrences)".toList
  | groupAssigned name value =>
    value.ifShown <|
      "Cannot set ".toList ++ name ++ " to ".toList ++ value.quoted ++
        ": it is a group, set its fields individually".toList
  | elementAssigned array index value =>
    value.ifShown <|
      "Cannot set ".toList ++ array ++ '[' :: Text.ofInt index ++ "] to ".toList ++ value.quoted ++
        ": it is a group field".toList
  | pastEnd name stop size =>
    name ++ " ends at byte ".toList ++ Text.ofNat stop ++ ", past the ".toList ++ Text.ofNat size ++
      "-byte record".toList
  | tooShort size needs =>
    "buffer holds ".toList ++ Text.ofNat size ++ " bytes, record needs ".toList ++ Text.ofNat needs
  | shortReply program size needs =>
    program ++ " returned ".toList ++ Text.ofNat size ++ " bytes, record needs ".toList ++ Text.ofNat needs
  | field fault => fault.message
  | notAccessor => "not an accessor".toList
  | notOffered => "not offered by occurrences".toList

end AccessFault

-- A step from an accessor to what it holds: a name in its one spelling, or a position.
inductive Key
  | name (n : Text)
  | position (k : Nat)
  deriving DecidableEq, Repr

-- A node reached from the root of a record by a path, and how far the occurrence that is meant lies from its
-- first one.
structure Place where
  node : Node
  shift : Nat
  path : List Key

-- An elementary field reached by a path.
structure Spot where
  item : Item
  type : FieldType
  shift : Nat
  path : List Key

namespace Spot

def start (s : Spot) : Nat :=
  s.item.offset + s.shift

def stop (s : Spot) : Nat :=
  s.start + s.type.length

-- The bytes of the field.
def bytes (s : Spot) (buffer : Bytes) : Except AccessFault Bytes :=
  if buffer.length < s.stop then .error (.pastEnd s.item.name s.stop buffer.length)
  else .ok (Bytes.slice buffer s.start s.stop)

def decode (s : Spot) (codec : Codec) (raw : Bytes) : Except AccessFault Value :=
  (s.type.decode codec raw).mapError .field

-- The value of the field, from the bytes it has now.
def read (s : Spot) (codec : Codec) (buffer : Bytes) : Except AccessFault Value := do
  s.decode codec (← s.bytes buffer)

-- The buffer with a value written into the field.
def write (s : Spot) (codec : Codec) (buffer : Bytes) (v : Value) : Except AccessFault Bytes := do
  let _ ← s.bytes buffer
  let b ← (s.type.encode codec v).mapError .field
  return Bytes.splice buffer s.start s.stop b

end Spot

-- What an access leads to: the value of a field, or an accessor.
inductive Found
  | value (v : Value)
  | accessor (p : Place)

-- How the parts of a record are reached: the value of a field, and the accessor that is used for a place.
structure Reach (m : Type → Type) where
  value : Spot → m Value
  accessor : Place → m Place

namespace Place

def root (layout : Layout) : Place :=
  ⟨layout.root, 0, []⟩

def spot? (p : Place) : Option Spot :=
  match p.node with
  | .field item type => some ⟨item, type, p.shift, p.path⟩
  | _ => none

def isArray (p : Place) : Bool :=
  match p.node with
  | .array .. => true
  | _ => false

-- How many fields a group has, or how many occurrences an array.
def count (p : Place) : Nat :=
  match p.node with
  | .array count _ => count
  | n => n.fieldNames.length

-- The member of that name.
def member (p : Place) (name : Text) (n : Node) : Place :=
  ⟨n, p.shift, p.path ++ [.name name]⟩

-- The occurrence at a position.
def element (p : Place) (n : Node) (k : Nat) : Place :=
  ⟨n, p.shift + k * n.length, p.path ++ [.position k]⟩

-- What a key means at an accessor.
def resolve (p : Place) (key : Value) : Except AccessFault Place :=
  match p.node with
  | .group item length members =>
    match key with
    | .text name =>
      let name' := normalizeName name
      match (Node.group item length members).lookup? name' with
      | some n => .ok (p.member name' n)
      | none => .error (.unknownName name item.name)
    | key => .error (.notAName key)
  | .array count n =>
    match key with
    | .int index =>
      match position? count index with
      | some k => .ok (p.element n k)
      | none => .error (.outOfRange index n.name count)
    | key => .error (.notAnIndex key)
  | .field .. => .error .notAccessor

-- The field that a key means, for setting it to a value.
def assignee (p : Place) (key v : Value) : Except AccessFault Spot := do
  let q ← p.resolve key
  match q.spot? with
  | some s => return s
  | none =>
    match key with
    | .int index => throw (.elementAssigned p.node.name index v)
    | .text name => throw (.groupAssigned (normalizeName name) v)
    | _ => throw .notAccessor

-- The bytes that an accessor covers, as many of them as there are.
def bytes (p : Place) (buffer : Bytes) : Bytes :=
  let start := p.node.offset + p.shift
  Bytes.slice buffer start (start + p.node.length)

section Reading

variable {m : Type → Type} [Monad m] [MonadExceptOf AccessFault m] (reach : Reach m)

-- Reads a field; other nodes are accessors.
def fetch (p : Place) : m Found :=
  match p.spot? with
  | some s => .value <$> reach.value s
  | none => .accessor <$> reach.accessor p

def get (p : Place) (key : Value) : m Found := do
  fetch reach (← MonadExcept.ofExcept (p.resolve key))

-- Applies keys one after another.
def navigate (p : Place) : List Value → m Found
  | [] => return .accessor p
  | key :: keys => do
    match keys, ← get reach p key with
    | _, .accessor q => navigate q keys
    | [], .value v => return .value v
    | _, .value _ => throw .notAccessor

-- The accessor that the keys lead to.
def accessor (p : Place) (keys : List Value) : m Place := do
  match ← navigate reach p keys with
  | .accessor q => return q
  | .value _ => throw .notAccessor

-- The fields of a group with what each leads to, all fields being read.
def items (p : Place) : m (List (Text × Found)) :=
  p.node.fields.mapM fun n => do return (n.name, ← fetch reach (p.member n.name n))

-- The occurrences of an array, one after another.
def occurrences (p : Place) : m (List Found) :=
  match p.node with
  | .array count n => (List.range count).mapM fun k => fetch reach (p.element n k)
  | _ => throw .notOffered

-- Where a node is once it has been reached: an accessor may have been there before.
def enter (p : Place) : m Place :=
  match p.spot? with
  | some _ => return p
  | none => reach.accessor p

mutual

-- The value of a node with all that it holds: a record for a group, a list for an array. The fields of a
-- group are read before the groups in it.
def plain (shift : Nat) (path : List Key) : Node → m Value
  | .field item type => reach.value ⟨item, type, shift, path⟩
  | .group item length members => do
    let _ ← items reach ⟨.group item length members, shift, path⟩
    return .record (← plainMembers shift path [] members)
  | .array count n => do
    return .list (← (List.range count).mapM fun k => do
      let q ← enter reach ⟨n, shift + k * n.length, path ++ [.position k]⟩
      plain q.shift q.path n)

-- The members that can be addressed, except for those with names in `seen`.
def plainMembers (shift : Nat) (path : List Key) (seen : List Text) :
    List Node → m (List (Text × Value))
  | [] => return []
  | n :: ns =>
    if !n.isAddressable || seen.contains n.name then plainMembers shift path seen ns
    else do
      let q ← enter reach ⟨n, shift, path ++ [.name n.name]⟩
      let v ← plain q.shift q.path n
      return (n.name, v) :: (← plainMembers shift path (n.name :: seen) ns)

end

def toValue (p : Place) : m Value :=
  plain reach p.shift p.path p.node

-- Whether one of the occurrences from `k` on equals `v`; the search ends with the first that does.
def containsFrom (p : Place) (n : Node) (v : Value) : List Nat → m Bool
  | [] => return false
  | k :: ks => do
    match ← fetch reach (p.element n k) with
    | .value w =>
      if ← MonadExcept.ofExcept ((w.sameScalar v).mapError fun e => AccessFault.field (.arithmetic e)) then
        return true
      else containsFrom p n v ks
    | .accessor _ => containsFrom p n v ks

-- Whether a group has a field of that name, or one of the occurrences equals that value.
def contains (p : Place) (v : Value) : m Bool :=
  match p.node with
  | .array count n => containsFrom reach p n v (List.range count)
  | n =>
    match v with
    | .text name => return (n.lookup? (normalizeName name)).isSome
    | _ => return false

end Reading

end Place

namespace Layout

-- The value of the whole record over these bytes.
def value (layout : Layout) (buffer : Bytes) : Except AccessFault Value :=
  (Place.root layout).toValue ⟨fun s => s.read layout.codec buffer, .ok⟩

-- Bytes can be taken for a record if there are enough of them.
def check (layout : Layout) (buffer : Bytes) : Except AccessFault Unit :=
  if buffer.length < layout.length then .error (.tooShort buffer.length layout.length) else .ok ()

-- The buffer with a value written to the field that a key means at an accessor.
def assign (layout : Layout) (p : Place) (buffer : Bytes) (key v : Value) : Except AccessFault Bytes := do
  let s ← p.assignee key v
  s.write layout.codec buffer v

-- Sets fields of the record by name, one after another. What has been set before one fails stays set.
def assignAll (layout : Layout) (buffer : Bytes) : List (Text × Value) → Except AccessFault Unit × Bytes
  | [] => (.ok (), buffer)
  | (name, v) :: rest =>
    match layout.assign (Place.root layout) buffer (.text name) v with
    | .ok buffer => assignAll layout buffer rest
    | .error e => (.error e, buffer)

end Layout

end Copybook
