import Copybook.Field
import Copybook.Source.Declaration

/-!
The parts of a record. Offsets are those of the first occurrence: the later occurrences of an item lie one
element length further each.
-/

namespace Copybook

-- What fields and groups have in common. `initial` holds the bytes of the literal `value`.
structure Item where
  name : Text
  offset : Nat
  redefines : Option Text
  value : Option Text
  initial : Option Bytes
  deriving DecidableEq, Repr

-- The element of an array is a field or a group.
inductive Node
  | field (item : Item) (type : FieldType)
  | group (item : Item) (length : Nat) (members : List Node)
  | array (count : Nat) (element : Node)
  deriving Repr

namespace Node

def item : Node → Item
  | field item _ => item
  | group item _ _ => item
  | array _ element => element.item

def name (n : Node) : Text :=
  n.item.name

def offset (n : Node) : Nat :=
  n.item.offset

-- The bytes of all occurrences.
def length : Node → Nat
  | field _ type => type.length
  | group _ length _ => length
  | array count element => count * element.length

def members : Node → List Node
  | group _ _ members => members
  | _ => []

def isAddressable (n : Node) : Bool :=
  n.name != fillerName

-- The first node of each name.
def firstOfEach : List Node → List Node
  | [] => []
  | n :: ns => n :: (firstOfEach ns).filter fun m => m.name != n.name

-- The members that can be addressed, each name once.
def fields (n : Node) : List Node :=
  firstOfEach (n.members.filter isAddressable)

def fieldNames (n : Node) : List Text :=
  n.fields.map name

mutual

-- What can be named within a node: the members of a group, and through its groups without occurrences
-- their members too. A member comes before what its groups hold, and the first of each name counts.
def visible : Node → List Node
  | group _ _ members => firstOfEach (members.filter isAddressable ++ visibleAll members)
  | _ => []

def visibleAll : List Node → List Node
  | [] => []
  | n :: ns => n.visible ++ visibleAll ns

end

def lookup? (n : Node) (name : Text) : Option Node :=
  n.visible.find? fun m => m.name == name

mutual

-- All occurrences of the fields and groups in a node, each with the distance from its first one. Groups
-- come before their members, occurrences in order.
def occurrences (shift : Nat) : Node → List (Node × Nat)
  | field item type => [(field item type, shift)]
  | group item length members => (group item length members, shift) :: occurrencesAll shift members
  | array count element =>
    (List.range count).flatMap fun k => element.occurrences (shift + k * element.length)

def occurrencesAll (shift : Nat) : List Node → List (Node × Nat)
  | [] => []
  | n :: ns => n.occurrences shift ++ occurrencesAll shift ns

end

end Node

-- A compiled copybook: the parts of its record, the declarations they come from, and how its text is
-- converted.
structure Layout where
  length : Nat
  members : List Node
  declarations : List Declaration
  codec : Codec

namespace Layout

-- The name that the whole record goes by.
def rootName : Text :=
  "<record>".toList

-- The whole record as a group.
def root (layout : Layout) : Node :=
  .group ⟨rootName, 0, none, none, none⟩ layout.length layout.members

-- The length and the names of the outermost fields.
def describe (layout : Layout) : Text :=
  "Layout(length=".toList ++ Text.ofNat layout.length ++ ", fields=".toList ++
    (Value.list (layout.root.fieldNames.map Value.text)).quoted ++ [')']

end Layout

end Copybook
