import Copybook.Proofs.Layout.Containment
import Copybook.Proofs.Layout.Moving
import Copybook.Proofs.Layout.Nesting

/-!
Where the occurrences of the items of a record lie: each at the offset of its item, and further by whole elements of
the arrays around it, as the indexes say.
-/

namespace Copybook

-- An item by its place: where its first occurrence starts, how long each of them is, and the arrays it lies in with
-- their counts and the lengths of their elements, the outermost first.
structure Extent where
  offset : Nat
  length : Nat
  arrays : List (Nat × Nat)
  deriving DecidableEq, Repr

namespace Extent

-- How far the occurrence of these indexes lies from the first one.
def shift (arrays : List (Nat × Nat)) (indexes : List Nat) : Nat :=
  (indexes.zipWith (fun i a => i * a.2) arrays).sum

-- There is an occurrence for these indexes.
def InRange (arrays : List (Nat × Nat)) (indexes : List Nat) : Prop :=
  List.Forall₂ (fun i a => i < a.1) indexes arrays

-- Where the occurrence of these indexes starts.
def address (e : Extent) (indexes : List Nat) : Nat :=
  e.offset + shift e.arrays indexes

def moved (δ : Nat) (e : Extent) : Extent :=
  { e with offset := e.offset + δ }

-- The extent of an item, all of it within further arrays.
def within (outer : List (Nat × Nat)) (e : Extent) : Extent :=
  { e with arrays := outer ++ e.arrays }

theorem within_within (outer inner : List (Nat × Nat)) (e : Extent) :
    (e.within inner).within outer = e.within (outer ++ inner) := by
  simp [within]

-- Leaving out an array leaves where the occurrences of one of its elements are.
theorem address_moved_within {outer : List (Nat × Nat)} {count length k : Nat} {before after : List Nat} (e : Extent)
    (h : before.length = outer.length) :
    ((e.moved (k * length)).within outer).address (before ++ after) =
      (e.within (outer ++ [(count, length)])).address (before ++ k :: after) := by
  simp [address, shift, within, moved, List.zipWith_append h]
  omega

end Extent

namespace Node

-- The arrays that a node is made of, the outermost first.
def arrays : Node → List (Nat × Nat)
  | field .. | group .. => []
  | array count element => (count, element.length) :: element.arrays

-- What the occurrences of a node are.
def element : Node → Node
  | array _ element => element.element
  | n => n

mutual

-- The extents of a node and of all it holds, within the arrays around it.
def extents (outer : List (Nat × Nat)) : Node → List Extent
  | field item type => [⟨item.offset, type.length, outer⟩]
  | group item length members => ⟨item.offset, length, outer⟩ :: extentsAll outer members
  | array count element => element.extents (outer ++ [(count, element.length)])

def extentsAll (outer : List (Nat × Nat)) : List Node → List Extent
  | [] => []
  | n :: ns => n.extents outer ++ extentsAll outer ns

end

theorem extentsAll_append (outer : List (Nat × Nat)) (ns ms : List Node) :
    extentsAll outer (ns ++ ms) = extentsAll outer ns ++ extentsAll outer ms := by
  induction ns
  case nil => rfl
  case cons n ns hi => simp [extentsAll, hi]

mutual

-- The arrays around a node are around everything in it.
theorem extents_eq (n : Node) (outer : List (Nat × Nat)) : n.extents outer = (n.extents []).map (·.within outer) := by
  cases n <;> simp only [extents]
  case field => simp [Extent.within]
  case group item length members => simp [Extent.within, extentsAll_eq members outer]
  case array count element =>
    rw [extents_eq element, extents_eq element ([] ++ [(count, element.length)])]
    simp [Extent.within_within]

theorem extentsAll_eq (ns : List Node) (outer : List (Nat × Nat)) :
    extentsAll outer ns = (extentsAll [] ns).map (·.within outer) := by
  cases ns
  case nil => rfl
  case cons n ns =>
    rw [extentsAll, extentsAll, List.map_append, extents_eq n outer, extentsAll_eq ns outer]

end

mutual

theorem extents_moved (δ : Nat) (n : Node) (outer : List (Nat × Nat)) :
    (n.moved δ).extents outer = (n.extents outer).map (·.moved δ) := by
  cases n <;> simp only [moved, extents]
  case field => rfl
  case group item length members => simp [extentsAll_moved δ members, Extent.moved, Item.moved]
  case array count element => rw [extents_moved δ element, length_moved]

theorem extentsAll_moved (δ : Nat) (ns : List Node) (outer : List (Nat × Nat)) :
    extentsAll outer (movedAll δ ns) = (extentsAll outer ns).map (·.moved δ) := by
  cases ns
  case nil => rfl
  case cons n ns => rw [movedAll, extentsAll, extentsAll, List.map_append, extents_moved δ n, extentsAll_moved δ ns]

end
end Node

namespace Part

def extent (p : Part) : Extent where
  offset := p.node.offset
  length := p.node.element.length
  arrays := (p.around.reverse ++ [p.node]).flatMap Node.arrays

end Part

namespace Node

mutual

-- The first extent of a node is its own, the others are those of the parts inside.
theorem extents_parts (n : Node) {outer : List (Nat × Nat)} {m : Node} {around : List Node}
    (ho : m.offset = n.offset) (he : m.element = n.element)
    (ha : (m :: around).reverse.flatMap arrays = outer ++ n.arrays) :
    (⟨m, around⟩ :: n.inside (m :: around)).map Part.extent = n.extents outer := by
  have hm (h : n.arrays = []) : Part.extent ⟨m, around⟩ = ⟨n.offset, n.element.length, outer⟩ := by
    rw [h, List.append_nil, List.reverse_cons] at ha
    rw [Part.extent, ho, he, ha]
  cases n
  case field item type => exact congrArg (· :: []) (hm rfl)
  case group item length members =>
    have hi := extentsAll_parts members (m :: around)
    rw [ha, arrays, List.append_nil] at hi
    rw [inside, extents, List.map_cons, hm rfl, hi]
    rfl
  case array count n => exact extents_parts n ho he (by rw [ha, arrays]; simp)

theorem extentsAll_parts (ns : List Node) (around : List Node) :
    (partsAll around ns).map Part.extent = extentsAll (around.reverse.flatMap arrays) ns := by
  cases ns
  case nil => rfl
  case cons n ns =>
    have hn : (⟨n, around⟩ :: n.inside (n :: around)).map Part.extent = n.extents (around.reverse.flatMap arrays) :=
      extents_parts n rfl rfl (by simp)
    rw [partsAll, extentsAll, List.map_append, extentsAll_parts ns, hn]

end
-- There is an occurrence of a node for every choice of indexes in these arrays.
def OccursAt (root n : Node) (arrays : List (Nat × Nat)) : Prop :=
  ∀ indexes, Extent.InRange arrays indexes → root.Occurs n (Extent.shift arrays indexes)

theorem OccursAt.element {root n : Node} {outer : List (Nat × Nat)} {count : Nat}
    (h : root.OccursAt (array count n) outer) : root.OccursAt n (outer ++ [(count, n.length)]) := by
  intro indexes hi
  have hb := List.forall₂_take_append _ _ _ hi
  have hl := List.forall₂_drop_append _ _ _ hi
  rw [←List.take_append_drop outer.length indexes]
  generalize indexes.take outer.length = before at hb
  generalize indexes.drop outer.length = last at hl
  obtain _ | ⟨hk, hl⟩ := hl
  cases hl
  rw [Extent.shift, List.zipWith_append hb.length_eq, List.sum_append]
  simpa [Extent.shift] using (h before hb).element hk

mutual

theorem parts_occurAt (n : Node) {root m : Node} {outer : List (Nat × Nat)} {around : List Node}
    (he : m.element = n.element) (ha : (m :: around).reverse.flatMap arrays = outer ++ n.arrays)
    (h : root.OccursAt n outer) :
    ∀ p ∈ (⟨m, around⟩ :: n.inside (m :: around) : List Part), root.OccursAt p.node.element p.extent.arrays := by
  have hm (h : n.arrays = []) : Part.extent ⟨m, around⟩ = ⟨m.offset, m.element.length, outer⟩ := by
    rw [h, List.append_nil, List.reverse_cons] at ha
    rw [Part.extent, ha]
  cases n
  case field item type =>
    rw [inside, List.forall_mem_singleton, hm rfl, he]
    exact h
  case group item length members =>
    rw [inside, List.forall_mem_cons, hm rfl, he]
    refine ⟨h, partsAll_occurAt members (m :: around) fun n hn indexes hi => ?_⟩
    rw [ha, arrays, List.append_nil] at hi ⊢
    exact (h indexes hi).member hn
  case array count n =>
    exact parts_occurAt n he (by rw [ha, arrays]; simp) h.element

theorem partsAll_occurAt (ns : List Node) {root : Node} (around : List Node)
    (h : ∀ n ∈ ns, root.OccursAt n (around.reverse.flatMap arrays)) :
    ∀ p ∈ partsAll around ns, root.OccursAt p.node.element p.extent.arrays := by
  cases ns
  case nil => simp [partsAll]
  case cons n ns =>
    have ⟨hn, hns⟩ := List.forall_mem_cons.mp h
    rw [partsAll]
    refine List.forall_mem_append.mpr ⟨?_, partsAll_occurAt ns around hns⟩
    exact parts_occurAt n rfl (by simp) hn

end

theorem offset_element (n : Node) : n.element.offset = n.offset := by
  cases n <;> try rfl
  case array count element => exact offset_element element

end Node

namespace Layout

theorem extents_eq_parts (layout : Layout) : layout.parts.map Part.extent = Node.extentsAll [] layout.members :=
  Node.extentsAll_parts layout.members []

-- At each address of an item, which is that of some choice of indexes, there really is an occurrence of the item.
theorem occurs_at_address {layout : Layout} {p : Part} (hp : p ∈ layout.parts) {indexes : List Nat}
    (hi : Extent.InRange p.extent.arrays indexes) :
    ∃ shift, layout.root.Occurs p.node.element shift ∧
      p.node.element.offset + shift = p.extent.address indexes := by
  have h : ∀ n ∈ layout.members, layout.root.OccursAt n [] := by
    intro n hn indexes hi
    cases hi
    exact .member .root hn
  exact ⟨_, Node.partsAll_occurAt layout.members [] h p hp indexes hi, by rw [Node.offset_element]; rfl⟩

end Layout
end Copybook
