import Copybook.Proofs.Layout.Export
import Copybook.Proofs.Layout.Path
import Copybook.Proofs.Source.Standing

/-!
The items of a compiled record with those around them. They are the declared ones, in the same order and among the same
siblings; and an item whose name means no other one, and those around it likewise, is where a path of these names leads.
-/

namespace Copybook

namespace Node

mutual

-- The items that a node holds, each with those around it, `around` being the node and all around it.
def held (around : List (Sibling Node)) : Node → List (Descent Node)
  | field .. => []
  | group _ _ members => descentsAll around [] members
  | array _ element => element.held around

def descentsAll (around : List (Sibling Node)) (earlier : List Text) : List Node → List (Descent Node)
  | [] => []
  | n :: ns =>
    ⟨⟨n, earlier⟩, around⟩ :: n.held (⟨n, earlier⟩ :: around) ++ descentsAll around (n.name :: earlier) ns

end

-- One occurrence of an item.
def single : Node → Node
  | array _ element => element
  | n => n

end Node

namespace Descent

-- An item and those around it as a part of the record.
def part (c : Descent Node) : Part :=
  ⟨c.item.item, c.around.map (·.item)⟩

end Descent

namespace Node

mutual

theorem map_held (n : Node) (around : List (Sibling Node)) :
    (n.held around).map Descent.part = n.inside (around.map (·.item)) := by
  cases n <;> simp only [held, inside]
  case field => rfl
  case group => exact map_descentsAll _ _ _
  case array => exact map_held _ _

theorem map_descentsAll (ns : List Node) (around : List (Sibling Node)) (earlier : List Text) :
    (descentsAll around earlier ns).map Descent.part = partsAll (around.map (·.item)) ns := by
  cases ns
  case nil => rfl
  case cons n ns =>
    rw [descentsAll, partsAll, List.cons_append, List.map_cons, List.map_append, map_held n, map_descentsAll ns]
    rfl

end

end Node

-- An item of a record is the one that a declaration says, among siblings of the same names.
structure Sibling.Stands (codec : Codec) (x : Sibling Declaration) (y : Sibling Node) : Prop where
  declares : y.item.Declares codec x.item
  count : y.item.count? = x.item.occurs
  earlier : y.earlier = x.earlier

-- So is everything around it.
structure Descent.Stands (codec : Codec) (x : Descent Declaration) (y : Descent Node) : Prop where
  item : x.item.Stands codec y.item
  around : List.Forall₂ (Sibling.Stands codec) x.around y.around

namespace Layout

open Noting

variable {codec : Codec}

theorem held_occurring (d : Declaration) (n : Node) (around : List (Sibling Node)) :
    (occurring d n).held around = n.held around := by
  unfold occurring
  split
  · rfl
  · rw [Node.held]

mutual

theorem place_descents (o : Outline) {around : List (Sibling Declaration)} {above : List (Sibling Node)}
    {earlier : List Node} {cursor : Nat} {n : Node} {notices notices' : List Notice}
    (h : (place codec earlier cursor o).Yields notices n notices')
    (ha : List.Forall₂ (Sibling.Stands codec) around above) (names : List Text) :
    List.Forall₂ (Descent.Stands codec) (o.descents around names)
      (⟨⟨n, names⟩, above⟩ :: n.held (⟨n, names⟩ :: above)) := by
  have ⟨d, members⟩ := o
  have ⟨m, hn, hd, hc, hm⟩ := place_declares h
  have hs : Sibling.Stands codec ⟨d, names⟩ ⟨n, names⟩ :=
    ⟨hn ▸ declares_occurring hd, hn ▸ count?_occurring hc, rfl⟩
  have hi : n.held (⟨n, names⟩ :: above) = m.held (⟨n, names⟩ :: above) := by
    rw [hn, held_occurring]
  rw [Outline.descents, hi]
  refine .cons ⟨hs, ha⟩ ?_
  rcases hm with ⟨_, _, rfl, rfl⟩ | ⟨_, _, _, _, _, _, _, _, rfl, hp⟩
  · exact .nil
  · exact placeAll_descents members hp (.cons hs ha) []

theorem placeAll_descents (os : List Outline) {around : List (Sibling Declaration)} {above : List (Sibling Node)}
    {earlier : List Node} {cursor stop : Nat} {nodes : List Node} {notices notices' : List Notice}
    (h : (placeAll codec earlier cursor os).Yields notices (nodes, stop) notices')
    (ha : List.Forall₂ (Sibling.Stands codec) around above) (names : List Text) :
    List.Forall₂ (Descent.Stands codec) (Outline.descentsAll around names os) (Node.descentsAll above names nodes) := by
  cases os
  case nil =>
    rw [placeAll] at h
    cases h.pure.left
    exact .nil
  case cons o os =>
    have ⟨n, ns, m, he, hn, hns⟩ := placeAll_cases h
    have hd := place_descents o hn ha names
    have hname : n.name = o.declaration.name := by
      have ⟨d, members⟩ := o
      cases hd
      case cons hs _ => exact hs.item.declares.name
    rw [he, Outline.descentsAll, Node.descentsAll, hname]
    exact List.rel_append hd (placeAll_descents os hns ha _)

end

end Layout

namespace Sibling

-- The name of an item means no other one among its siblings.
def IsFirst (x : Sibling Node) : Prop :=
  x.item.isAddressable ∧ x.item.name ∉ x.earlier

-- What leads to the first occurrence of an item from the group that holds it.
def keys (x : Sibling Node) : List Key :=
  .name x.item.name :: if x.item.count?.isSome then [.position 0] else []

end Sibling

namespace Descent

def IsFirst (c : Descent Node) : Prop :=
  ∀ x ∈ c.item :: c.around, x.IsFirst

-- What leads to an item from the record: to all of its occurrences, in the first ones of the items around it.
def path (c : Descent Node) : List Key :=
  c.around.reverse.flatMap Sibling.keys ++ [.name c.item.item.name]

end Descent

namespace Node

-- Every array in a node repeats a field or a group, and does so at least once.
def Repeats (root : Node) : Prop :=
  ∀ count element, root.Within (array count element) → 0 < count ∧ element.count? = none

theorem Repeats.member {item : Item} {length : Nat} {members : List Node} {m : Node}
    (h : (group item length members).Repeats) (hm : m ∈ members) : m.Repeats :=
  fun count element hw => h count element ((Within.root.member hm).trans hw)

theorem Repeats.element {count : Nat} {element : Node} (h : (array count element).Repeats) : element.Repeats :=
  fun c e hw => h c e (Within.root.element.trans hw)

theorem single_of_count? {n : Node} (h : n.count? = none) : n.single = n := by
  cases n
  case array => contradiction
  all_goals rfl

variable {root : Place}

-- A name that is the first of its kind leads from the group that holds the item to the item, and on to its first
-- occurrence.
theorem stands_first {n : Node} {item : Item} {length : Nat} {before after : List Node} {path : List Key}
    {names : List Text} (hn : ∀ m ∈ before, m.name ∈ names) (hx : (⟨n, names⟩ : Sibling Node).IsFirst)
    (hg : (⟨group item length (before ++ n :: after), 0, path⟩ : Place).StandsIn root) :
    (⟨n, 0, path ++ [.name n.name]⟩ : Place).StandsIn root :=
  hg.member rfl (lookup?_member hx.left fun m hm _ he => hx.right (he ▸ hn m hm))

theorem stands_single {n : Node} {path : List Key} {names : List Text}
    (hr : n.Repeats) (hs : (⟨n, 0, path ++ [.name n.name]⟩ : Place).StandsIn root) :
    (⟨n.single, 0, path ++ Sibling.keys ⟨n, names⟩⟩ : Place).StandsIn root := by
  cases n
  case array count element =>
    have h := hs.element rfl (hr count element .root).left
    simpa [Place.element, Sibling.keys, count?, single] using h
  all_goals exact hs

mutual

theorem stands_of_mem_held (n : Node) {around : List (Sibling Node)} (hr : n.Repeats)
    (hg : (∀ x ∈ around, x.IsFirst) → (⟨n.single, 0, around.reverse.flatMap Sibling.keys⟩ : Place).StandsIn root) :
    ∀ c ∈ n.held around, c.IsFirst → (⟨c.item.item, 0, c.path⟩ : Place).StandsIn root := by
  cases n
  case field => exact nofun
  case group item length members =>
    have hb : ∀ m ∈ ([] : List Node), m.name ∈ ([] : List Text) := List.forall_mem_nil _
    exact stands_of_mem_descentsAll members (fun m hm => hr.member hm) hb hg
  case array count element =>
    have he := single_of_count? (hr count element .root).right
    refine stands_of_mem_held element hr.element fun hx => ?_
    rw [he]
    exact hg hx

theorem stands_of_mem_descentsAll (ns : List Node) {around : List (Sibling Node)} {names : List Text} {item : Item}
    {length : Nat} {before : List Node} (hr : ∀ n ∈ ns, n.Repeats) (hn : ∀ m ∈ before, m.name ∈ names)
    (hg : (∀ x ∈ around, x.IsFirst) →
      (⟨group item length (before ++ ns), 0, around.reverse.flatMap Sibling.keys⟩ : Place).StandsIn root) :
    ∀ c ∈ descentsAll around names ns, c.IsFirst → (⟨c.item.item, 0, c.path⟩ : Place).StandsIn root := by
  cases ns
  case nil => exact nofun
  case cons n ns =>
    obtain ⟨hrn, hrs⟩ := List.forall_mem_cons.mp hr
    have hs : (∀ x ∈ (⟨n, names⟩ : Sibling Node) :: around, x.IsFirst) →
        (⟨n, 0, around.reverse.flatMap Sibling.keys ++ [.name n.name]⟩ : Place).StandsIn root := fun hx =>
      have ⟨hx, ha⟩ := List.forall_mem_cons.mp hx
      stands_first hn hx (hg ha)
    intro c hc
    rcases List.mem_append.mp hc with hc | hc
    · rcases List.mem_cons.mp hc with rfl | hc
      · exact hs
      · refine stands_of_mem_held n hrn (fun hx => ?_) c hc
        have h : (⟨n.single, 0, _ ++ Sibling.keys ⟨n, names⟩⟩ : Place).StandsIn root := stands_single hrn (hs hx)
        simpa using h
    · have hb : ∀ m ∈ before ++ [n], m.name ∈ n.name :: names := by
        intro m hm
        rcases List.mem_append.mp hm with hm | hm
        · exact List.mem_cons_of_mem _ (hn m hm)
        · exact List.mem_singleton.mp hm ▸ List.mem_cons_self
      exact stands_of_mem_descentsAll ns hrs hb (by simpa using hg) c hc

end

end Node

namespace Layout

open Noting

variable {codec : Codec} {layout : Layout} {notices : List Notice} {statements : List Text}

mutual

-- What a placed array repeats is not repeated itself.
theorem place_element (o : Outline) {earlier : List Node} {cursor count : Nat} {n element : Node}
    {notices notices' : List Notice} (h : (place codec earlier cursor o).Yields notices n notices')
    (hw : n.Within (.array count element)) : element.count? = none := by
  have ⟨d, members⟩ := o
  have ⟨m, hn, _, hc, hm⟩ := place_declares h
  rw [hn] at hw
  rcases within_occurring hw with he | hw
  · unfold occurring at he
    split at he
    · rw [←he] at hc
      contradiction
    · cases he
      exact hc
  · rcases hm with ⟨_, _, rfl, _⟩ | ⟨_, _, _, _, _, _, _, _, rfl, hp⟩
    · cases hw.of_field
    · rcases hw.of_group with he | ⟨x, hx, hw⟩
      · contradiction
      · exact placeAll_element members hp hx hw

theorem placeAll_element (os : List Outline) {earlier nodes : List Node} {cursor stop count : Nat} {n element : Node}
    {notices notices' : List Notice} (h : (placeAll codec earlier cursor os).Yields notices (nodes, stop) notices')
    (hn : n ∈ nodes) (hw : n.Within (.array count element)) : element.count? = none := by
  cases os
  case nil =>
    rw [placeAll] at h
    cases h.pure.left
    contradiction
  case cons o os =>
    have ⟨x, ns, _, he, hx, hns⟩ := placeAll_cases h
    rw [he] at hn
    rcases List.mem_cons.mp hn with rfl | hn
    · exact place_element o hx hw
    · exact placeAll_element os hns hn hw

end

end Layout
end Copybook
