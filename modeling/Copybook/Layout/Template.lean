import Copybook.Layout.Node

/-!
The bytes of a fresh record: low values, with every initial value written at every occurrence of its item.
What is written later wins, so the value of an item stands over that of the group around it.
-/

namespace Copybook

namespace Node

-- The bytes that occurrences start with, and where.
def initials (occurrences : List (Node × Nat)) : List (Nat × Bytes) :=
  occurrences.filterMap fun (n, shift) => n.item.initial.map fun b => (n.offset + shift, b)

end Node

namespace Layout

def initials (layout : Layout) : List (Nat × Bytes) :=
  Node.initials (Node.occurrencesAll 0 layout.members)

def hasInitials (layout : Layout) : Bool :=
  !layout.initials.isEmpty

-- Writes bytes into a record. Past its end they are added to it.
def stamp (record : Bytes) : Nat × Bytes → Bytes
  | (start, b) => Bytes.splice record start (start + b.length) b

-- An initial value of a redefinition may reach past the end of the record; that part is cut.
def template (layout : Layout) : Bytes :=
  (layout.initials.foldl stamp (List.replicate layout.length 0)).take layout.length

end Layout

end Copybook
