import Copybook.Layout.Node

/-!
The layout as a list: a line for every item, its first occurrence only.
-/

namespace Copybook

inductive EntryKind
  | array
  | group
  | field
  deriving DecidableEq, Repr

-- The path names an item after the items around it; brackets stand for any occurrence.
structure Entry where
  path : Text
  depth : Nat
  kind : EntryKind
  offset : Nat
  length : Nat
  picture : Text
  occurs : Nat
  redefines : Option Text
  deriving DecidableEq, Repr

namespace Entry

def ofItem (item : Item) (path : Text) (depth : Nat) (kind : EntryKind) (length : Nat) : Entry where
  path := path
  depth := depth
  kind := kind
  offset := item.offset
  length := length
  picture := []
  occurs := 0
  redefines := item.redefines

end Entry

namespace Node

-- The picture of a field, nothing for other nodes.
def picture : Node → Text
  | field _ type => type.describe
  | _ => []

mutual

-- The entries of a node, `above` being the path of the group around it with its period.
def entries (above : Text) (depth : Nat) : Node → List Entry
  | field item type =>
    [{ Entry.ofItem item (above ++ item.name) depth .field type.length with picture := type.describe }]
  | group item length members =>
    .ofItem item (above ++ item.name) depth .group length ::
      entriesAll (above ++ item.name ++ ['.']) (depth + 1) members
  | array count element =>
    let path := above ++ element.name ++ ['[', ']']
    { Entry.ofItem element.item path depth .array (count * element.length) with
      picture := element.picture, occurs := count } :: elementEntries (path ++ ['.']) (depth + 1) element

-- The entries of what an array repeats, without one for the element itself.
def elementEntries (above : Text) (depth : Nat) : Node → List Entry
  | group _ _ members => entriesAll above depth members
  | _ => []

def entriesAll (above : Text) (depth : Nat) : List Node → List Entry
  | [] => []
  | n :: ns => n.entries above depth ++ entriesAll above depth ns

end

end Node

def Layout.entries (layout : Layout) : List Entry :=
  Node.entriesAll [] 0 layout.members

end Copybook
