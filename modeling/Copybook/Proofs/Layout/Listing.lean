import Copybook.Layout.Listing
import Copybook.Proofs.Layout.Descent

/-!
The listing of a layout has a line for every declared item, in the order of the declarations. Each line says where the
item is among the items around it, where its first occurrence starts and how long all of them are; and where the names
in its path each mean one item only, the path leads to the item.
-/

namespace Copybook

namespace Text

theorem join_concat (c : Char) (pieces : List Text) (s : Text) :
    join [c] (pieces ++ [s]) = pieces.flatMap (· ++ [c]) ++ s := by
  induction pieces
  case nil => rfl
  case cons t pieces hi =>
    have hj : join [c] (t :: (pieces ++ [s])) = t ++ [c] ++ join [c] (pieces ++ [s]) := by
      cases pieces <;> rfl
    rw [List.cons_append, hj, hi, List.flatMap_cons, List.append_assoc _ _ s]

end Text

namespace Entry

-- An item in a path: brackets stand for its occurrences.
def component (name : Text) (occurs : Option Nat) : Text :=
  if occurs.isSome then name ++ ['[', ']'] else name

-- A path to all occurrences of an item, in the first ones of the items around it.
def firstOccurrence : Text → Text
  | [] => []
  | ['[', ']'] => []
  | '[' :: ']' :: s => '[' :: '0' :: ']' :: firstOccurrence s
  | c :: s => c :: firstOccurrence s

variable {name s : Text}

end Entry

namespace Standing

def component (s : Standing) : Text :=
  Entry.component s.item.name s.item.occurs

-- The name of an item after those of the items around it.
def path (s : Standing) : Text :=
  Text.join ['.'] ((s :: s.enclosing).map component).reverse

end Standing

namespace Sibling

def component (x : Sibling Node) : Text :=
  Entry.component x.item.name x.item.count?

-- An item around another one, its first occurrence only.
def step (x : Sibling Node) : PathStep :=
  ⟨x.item.name, if x.item.count?.isSome then [0] else []⟩

theorem Stands.component {codec : Codec} {s : Standing} {x : Sibling Node} (h : s.sibling.Stands codec x) :
    x.component = s.component := by
  rw [Sibling.component, Standing.component, h.declares.name, h.count]
  rfl

theorem Stands.isFirst {codec : Codec} {s : Standing} {x : Sibling Node} (h : s.sibling.Stands codec x)
    (hs : s.IsFirst) : x.IsFirst := by
  have hn : x.item.name = s.item.name := h.declares.name
  have he : x.earlier = s.siblings.map (·.item.name) := h.earlier
  rw [IsFirst, Node.isAddressable, hn, he]
  refine ⟨bne_iff_ne.mpr hs.left, fun hm => ?_⟩
  have ⟨t, ht, hn⟩ := List.mem_map.mp hm
  exact hs.right t ht hn

end Sibling

namespace Node

-- What precedes the names of what some items hold.
def above (around : List (Sibling Node)) : Text :=
  around.reverse.flatMap fun x => x.component ++ ['.']

theorem above_cons (x : Sibling Node) (around : List (Sibling Node)) :
    above (x :: around) = above around ++ x.component ++ ['.'] := by
  simp [above]

def kind : Node → EntryKind
  | field .. => .field
  | group .. => .group
  | array .. => .array

end Node

namespace Descent

-- The line of an item.
def entry (c : Descent Node) : Entry where
  path := Node.above c.around ++ c.item.component
  depth := c.around.length
  kind := c.item.item.kind
  offset := c.item.item.offset
  length := c.item.item.length
  picture := c.item.item.single.picture
  occurs := c.item.item.count?.getD 0
  redefines := c.item.item.item.redefines

-- The steps that lead to an item, to all of its occurrences.
def steps (c : Descent Node) : List PathStep :=
  c.around.reverse.map Sibling.step ++ [⟨c.item.item.name, []⟩]

variable {codec : Codec} {s : Standing} {c : Descent Node}

theorem path_entry (c : Descent Node) :
    c.entry.path = Text.join ['.'] ((c.item :: c.around).map Sibling.component).reverse := by
  simp [entry, Node.above, Text.join_concat, List.flatMap_map, ←List.map_reverse]

theorem Stands.items (h : s.descent.Stands codec c) :
    List.Forall₂ (fun t x => t.sibling.Stands codec x) (s :: s.enclosing) (c.item :: c.around) :=
  .cons h.item (List.forall₂_map_left_iff.mp h.around)

theorem Stands.path (h : s.descent.Stands codec c) : c.entry.path = s.path := by
  have hc : List.Forall₂ (· = ·) ((c.item :: c.around).map Sibling.component)
      ((s :: s.enclosing).map Standing.component) :=
    List.forall₂_map_left_iff.mpr <| List.forall₂_map_right_iff.mpr <|
      List.Forall₂.flip (h.items.imp fun _ _ hs => hs.component)
  rw [List.forall₂_eq_eq_eq] at hc
  rw [path_entry, Standing.path, hc]

end Descent

namespace Node

theorem length_eq (n : Node) : n.length = n.count?.getD 1 * n.single.length := by
  cases n
  case array => rfl
  all_goals exact (Nat.one_mul _).symm

mutual

-- The lines of a node are those of its items. No element of an array is an array itself, which is why a line for the
-- array will do for both.
theorem entries_eq (n : Node) {around : List (Sibling Node)} {names : List Text} (hr : n.Repeats) :
    n.entries (above around) around.length =
      ((⟨⟨n, names⟩, around⟩ :: n.held (⟨n, names⟩ :: around)) : List (Descent Node)).map Descent.entry := by
  have held {ms : List Node} (x : Sibling Node) (hm : entriesAll (above (x :: around)) (x :: around).length ms =
        (descentsAll (x :: around) [] ms).map Descent.entry) :
      entriesAll (above around ++ x.component ++ ['.']) (around.length + 1) ms =
        (descentsAll (x :: around) [] ms).map Descent.entry := by
    rwa [above_cons] at hm
  cases n
  case field => rfl
  case group item length members =>
    have hm := held ⟨group item length members, names⟩ (entriesAll_eq members fun m hm => hr.member hm)
    exact congrArg _ hm
  case array count element =>
    have he := (hr count element .root).right
    have hp : above around ++ element.name ++ ['[', ']'] =
        above around ++ (⟨array count element, names⟩ : Sibling Node).component := List.append_assoc ..
    simp only [entries, hp]
    cases element
    case field => rfl
    case group item length members =>
      have hm := held ⟨array count (group item length members), names⟩
        (entriesAll_eq members fun m hm => hr.element.member hm)
      exact congrArg _ hm
    case array => contradiction

theorem entriesAll_eq (ns : List Node) {around : List (Sibling Node)} {names : List Text}
    (hr : ∀ n ∈ ns, n.Repeats) :
    entriesAll (above around) around.length ns = (descentsAll around names ns).map Descent.entry := by
  cases ns
  case nil => rfl
  case cons n ns =>
    obtain ⟨hn, hns⟩ := List.forall_mem_cons.mp hr
    rw [entriesAll, descentsAll, List.map_append, entries_eq n hn, entriesAll_eq ns hns]

end

-- The occurrences of an item in the first ones of the items around it lie one after another.
theorem Occurs.single {root n : Node} {k : Nat} (h : root.Occurs n 0) (hk : k < n.count?.getD 1) :
    root.Occurs n.single (k * n.single.length) := by
  cases n
  case array count element =>
    have h := h.element hk
    rwa [Nat.zero_add] at h
  all_goals
    rw [Nat.lt_one_iff.mp hk, Nat.zero_mul]
    exact h

mutual

theorem occurs_of_mem_held (n : Node) {root : Node} {around : List (Sibling Node)} (hr : n.Repeats)
    (h : root.Occurs n 0) : ∀ c ∈ n.held around, root.Occurs c.item.item 0 := by
  cases n
  case field => exact nofun
  case group item length members =>
    exact occurs_of_mem_descentsAll members (fun m hm => hr.member hm) fun m hm => h.member hm
  case array count element =>
    have he : root.Occurs element 0 := by
      have h := h.element (hr count element .root).left
      rwa [Nat.zero_mul] at h
    exact occurs_of_mem_held element hr.element he

theorem occurs_of_mem_descentsAll (ns : List Node) {root : Node} {around : List (Sibling Node)} {names : List Text}
    (hr : ∀ n ∈ ns, n.Repeats) (h : ∀ n ∈ ns, root.Occurs n 0) :
    ∀ c ∈ descentsAll around names ns, root.Occurs c.item.item 0 := by
  cases ns
  case nil => exact nofun
  case cons n ns =>
    obtain ⟨hr, hrs⟩ := List.forall_mem_cons.mp hr
    obtain ⟨hn, hns⟩ := List.forall_mem_cons.mp h
    exact List.forall_mem_append.mpr
      ⟨List.forall_mem_cons.mpr ⟨hn, occurs_of_mem_held n hr hn⟩, occurs_of_mem_descentsAll ns hrs hns⟩

end

end Node

namespace Layout

variable {layout : Layout} {codec : Codec} {notices : List Notice} {statements : List Text} {s : Standing}
  {c : Descent Node}

-- A line of the listing says what a declaration and its part of the record do. From its offset on lie the occurrences
-- of the item in the first ones of the items around it, one after another. Where the names in the path are each the
-- first of their kind, the path of the first occurrence leads to the part.
structure Lists (layout : Layout) (s : Standing) (p : Part) (e : Entry) : Prop where
  declares : p.node.Declares layout.codec s.item
  count : p.node.count? = s.item.occurs
  path : e.path = s.path
  depth : e.depth = s.enclosing.length
  redefines : e.redefines = s.item.redefines
  occurs : e.occurs = s.item.occurs.getD 0
  offset : e.offset = p.node.single.offset
  length : e.length = p.node.length
  covers : p.node.length = s.item.occurs.getD 1 * p.node.single.length
  occurrences : ∀ k < s.item.occurs.getD 1, layout.root.Occurs p.node.single (k * p.node.single.length)
  found : (∀ t ∈ s :: s.enclosing, t.IsFirst) →
    layout.find (Entry.firstOccurrence e.path) = .ok (p.node, e.offset)

theorem entries_eq (hr : layout.root.Repeats) :
    layout.entries = (Node.descentsAll [] [] layout.members).map Descent.entry := by
  have h : Node.entriesAll (Node.above []) _ layout.members =
      (Node.descentsAll [] [] layout.members).map Descent.entry :=
    Node.entriesAll_eq layout.members fun _ hn => hr.member hn
  exact h

end Layout
end Copybook
