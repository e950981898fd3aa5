import Copybook.Proofs.Layout.Tiling
import Copybook.Proofs.Source.Nesting

/-!
The parts of a compiled record in the order of their declarations. Each is what its declaration says, and the items
that the declaration names as enclosing it are those that the part really lies in.
-/

namespace Copybook

-- An item of a record, with all its occurrences, and the items around it, the innermost first.
structure Part where
  node : Node
  around : List Node

namespace Node

-- How many occurrences an item has been declared with.
def count? : Node → Option Nat
  | array count _ => some count
  | _ => none

-- What an elementary item holds.
def type? : Node → Option FieldType
  | field _ type => some type
  | group .. => none
  | array _ element => element.type?

-- What the literal of an item is encoded as: a group is text.
def storage : Node → FieldType
  | field _ type => type
  | group _ length _ => .text length false
  | array _ element => element.storage

mutual

-- The parts of what a node holds, `around` being the node itself and all around it.
def inside (around : List Node) : Node → List Part
  | field .. => []
  | group _ _ members => partsAll around members
  | array _ element => element.inside around

def partsAll (around : List Node) : List Node → List Part
  | [] => []
  | n :: ns => ⟨n, around⟩ :: n.inside (n :: around) ++ partsAll around ns

end

-- A node, or each occurrence of it, is what a declaration says.
structure Declares (codec : Codec) (d : Declaration) (n : Node) : Prop where
  name : n.name = d.name
  redefines : n.item.redefines = d.redefines
  value : n.item.value = d.value
  type : n.type?.map .ok = d.picture.map Picture.classify
  initial : n.item.initial.map .ok =
    d.value.map fun literal => Initial.encode literal n.storage n.storage.length codec

theorem Within.of_field {item : Item} {type : FieldType} {m : Node} (h : (field item type).Within m) :
    m = field item type := by
  induction h
  case root => rfl
  case member hi => contradiction
  case element hi => contradiction

theorem Within.of_group {item : Item} {length : Nat} {members : List Node} {m : Node}
    (h : (group item length members).Within m) : m = group item length members ∨ ∃ n ∈ members, n.Within m := by
  induction h
  case root => exact .inl rfl
  case member n _ hn hi =>
    rcases hi with hi | ⟨x, hx, hi⟩
    · cases hi
      exact .inr ⟨n, hn, .root⟩
    · exact .inr ⟨x, hx, hi.member hn⟩
  case element hi =>
    rcases hi with hi | ⟨x, hx, hi⟩
    · contradiction
    · exact .inr ⟨x, hx, hi.element⟩

theorem Within.of_array {count : Nat} {element m : Node} (h : (array count element).Within m) :
    m = array count element ∨ element.Within m := by
  induction h
  case root => exact .inl rfl
  case member hn hi =>
    rcases hi with hi | hi
    · contradiction
    · exact .inr (hi.member hn)
  case element hi =>
    rcases hi with hi | hi
    · cases hi
      exact .inr .root
    · exact .inr hi.element

theorem Within.trans {root n m : Node} (h : root.Within n) (hm : n.Within m) : root.Within m := by
  induction hm
  case root => exact h
  case member hm hi => exact hi.member hm
  case element hi => exact hi.element

section Within

variable {p : Node → Prop} {item : Item}

@[simp]
theorem forall_within_field {type : FieldType} : (∀ n, (field item type).Within n → p n) ↔ p (field item type) :=
  ⟨fun h => h _ .root, fun h _ hn => hn.of_field ▸ h⟩

@[simp]
theorem forall_within_group {length : Nat} {members : List Node} :
    (∀ n, (group item length members).Within n → p n) ↔
      p (group item length members) ∧ ∀ m ∈ members, ∀ n, m.Within n → p n := by
  refine ⟨fun h => ⟨h _ .root, fun m hm n hn => h n <| (Within.root.member hm).trans hn⟩, fun ⟨h, hm⟩ n hn => ?_⟩
  rcases hn.of_group with hn | ⟨m, hm', hn⟩
  case inl => exact hn ▸ h
  case inr => exact hm m hm' n hn

@[simp]
theorem forall_within_array {count : Nat} {element : Node} :
    (∀ n, (array count element).Within n → p n) ↔ p (array count element) ∧ ∀ n, element.Within n → p n := by
  refine ⟨fun h => ⟨h _ .root, fun n hn => h n <| Within.root.element.trans hn⟩, fun ⟨h, he⟩ n hn => ?_⟩
  rcases hn.of_array with hn | hn
  case inl => exact hn ▸ h
  case inr => exact he n hn

end Within

-- A node that holds others is what a declaration without a picture says.
def Encloses (codec : Codec) (d : Declaration) (n : Node) : Prop :=
  n.Declares codec d ∧ n.count? = d.occurs ∧ d.picture = none

end Node

namespace Part

def parent? (p : Part) : Option Text :=
  p.around.head?.map (·.name)

-- The innermost group with occurrences around a part.
def occursGroup? (p : Part) : Option Text :=
  (p.around.find? (·.count?.isSome)).map (·.name)

-- The innermost item around a part that redefines another.
def redefinesGroup? (p : Part) : Option Text :=
  (p.around.find? (·.item.redefines.isSome)).map (·.name)

variable {codec : Codec} {d : Declaration} {p : Part} {around : List Declaration} {ns : List Node}

theorem head?_encloses (h : List.Forall₂ (Node.Encloses codec) around ns) :
    around.head?.map (·.name) = ns.head?.map (·.name) := by
  cases h
  case nil => rfl
  case cons hn _ => exact congrArg some hn.left.name.symm

theorem find?_encloses {f : Declaration → Bool} {g : Node → Bool}
    (h : List.Forall₂ (Node.Encloses codec) around ns) (hf : ∀ d n, n.Encloses codec d → g n = f d) :
    (around.find? f).map (·.name) = (ns.find? g).map (·.name) := by
  induction h
  case nil => rfl
  case cons d n _ _ hn _ hi =>
    rw [List.find?_cons, List.find?_cons, hf d n hn]
    cases f d
    case false => exact hi
    case true => exact congrArg some hn.left.name.symm

-- The items that a declaration names are the ones around the part, if it has been declared among these.
theorem named_of_isIn (h : Source.IsIn d (.within around))
    (ha : List.Forall₂ (Node.Encloses codec) around p.around) :
    d.parent = p.parent? ∧ d.occursGroup = p.occursGroup? ∧ d.redefinesGroup = p.redefinesGroup? := by
  have ⟨hp, ho, hr⟩ := h
  rw [hp, ho, hr, Source.Nesting.within_items, Source.Nesting.within_occurring, Source.Nesting.within_redefining]
  refine ⟨head?_encloses ha, find?_encloses ha fun d n hn => ?_, find?_encloses ha fun d n hn => ?_⟩
  · simp [Source.Nesting.isOccurring, hn.right.left, hn.right.right]
  · rw [hn.left.redefines]

end Part

namespace Layout

open Noting

variable {codec : Codec} {d : Declaration} {n : Node} {cursor : Nat} {notices notices' : List Notice}

-- The parts of the record, in the order of their declarations.
def parts (layout : Layout) : List Part :=
  Node.partsAll [] layout.members

theorem initial_eq {type : FieldType} {bytes : Option Bytes}
    (h : (initial codec d type).Yields notices bytes notices') :
    bytes.map .ok = d.value.map fun literal => Initial.encode literal type type.length codec := by
  unfold initial at h
  split at h
  case _ hv =>
    rw [hv, ←h.pure.left]
    rfl
  case _ literal hv =>
    split at h
    case _ b hb =>
      rw [hv, ←h.pure.left, Option.map_some, Option.map_some, hb]
    case _ => split at h <;> exact absurd h (not_yields_throw _)

theorem declares_occurring (h : n.Declares codec d) : (occurring d n).Declares codec d := by
  unfold Layout.occurring
  split
  case _ => exact h
  case _ => exact ⟨h.name, h.redefines, h.value, h.type, h.initial⟩

theorem count?_occurring (hn : n.count? = none) : (occurring d n).count? = d.occurs := by
  unfold occurring
  split
  case _ ho => rw [hn, ho]
  case _ ho => exact ho.symm

theorem inside_occurring (around : List Node) : (occurring d n).inside around = n.inside around := by
  unfold occurring
  split
  · rfl
  · rw [Node.inside]

-- Placing an item gives what its declaration says, over the members that it places.
theorem place_declares {members : List Outline} {earlier : List Node}
    (h : (place codec earlier cursor (.item d members)).Yields notices n notices') :
    ∃ m, n = occurring d m ∧ m.Declares codec d ∧ m.count? = none ∧
      ((∃ item type, m = .field item type ∧ members = []) ∨
        d.picture = none ∧ ∃ item length nodes cursor stop notices notices', m = .group item length nodes ∧
          (placeAll codec [] cursor members).Yields notices (nodes, stop) notices') := by
  have ⟨t, m, _, h⟩ := place_cases h
  cases h
  case inl h =>
    have ⟨format, type, bytes, _, _, hf, hm, htype, hbytes, hn, _⟩ := h
    refine ⟨_, hn, ⟨rfl, rfl, rfl, ?_, initial_eq hbytes⟩, rfl, .inl ⟨_, _, rfl, hm⟩⟩
    rw [Node.type?, hf, Option.map_some, Option.map_some, (fieldType_yields htype).right]
  case inr h =>
    have ⟨nodes, stop, length, bytes, _, _, _, hf, hm, _, _, hbytes, hn, _⟩ := h
    refine ⟨_, hn, ⟨rfl, rfl, rfl, ?_, initial_eq hbytes⟩, rfl, .inr ⟨hf, _, _, _, _, _, _, _, rfl, hm⟩⟩
    rw [Node.type?, hf]
    rfl

-- The outline of the declarations and the parts of what is made of it go together, part by part.
def Agrees (codec : Codec) (p : Declaration × List Declaration) (q : Part) : Prop :=
  q.node.Declares codec p.1 ∧ q.node.count? = p.1.occurs ∧ List.Forall₂ (Node.Encloses codec) p.2 q.around

mutual

theorem place_parts (o : Outline) {around : List Declaration} {ns : List Node} {earlier : List Node} {cursor : Nat}
    {n : Node} {notices notices' : List Notice} (h : (place codec earlier cursor o).Yields notices n notices')
    (ha : List.Forall₂ (Node.Encloses codec) around ns) :
    List.Forall₂ (Agrees codec) (o.parts around) (⟨n, ns⟩ :: n.inside (n :: ns)) := by
  have ⟨d, members⟩ := o
  have ⟨m, hn, hd, hc, hm⟩ := place_declares h
  have hd : n.Declares codec d := hn ▸ declares_occurring hd
  have hc : n.count? = d.occurs := hn ▸ count?_occurring hc
  have hi : n.inside (n :: ns) = m.inside (n :: ns) := by
    rw [hn, inside_occurring]
  rw [Outline.parts, hi]
  refine .cons ⟨hd, hc, ha⟩ ?_
  cases hm
  case inl hm =>
    have ⟨_, _, hm, he⟩ := hm
    rw [hm, he]
    exact .nil
  case inr hm =>
    have ⟨hf, _, _, _, _, _, _, _, hm, hs⟩ := hm
    rw [hm]
    exact placeAll_parts members hs (.cons ⟨hd, hc, hf⟩ ha)

theorem placeAll_parts (os : List Outline) {around : List Declaration} {ns : List Node} {earlier : List Node}
    {cursor stop : Nat} {nodes : List Node} {notices notices' : List Notice}
    (h : (placeAll codec earlier cursor os).Yields notices (nodes, stop) notices')
    (ha : List.Forall₂ (Node.Encloses codec) around ns) :
    List.Forall₂ (Agrees codec) (Outline.partsAll around os) (Node.partsAll ns nodes) := by
  cases os
  case nil =>
    rw [placeAll] at h
    cases h.pure.left
    exact .nil
  case cons o os =>
    have ⟨n, ns', m, he, hn, hns⟩ := placeAll_cases h
    rw [he, Outline.partsAll, Node.partsAll]
    exact List.rel_append (place_parts o hn ha) (placeAll_parts os hns ha)

end

theorem within_occurring {m : Node} (h : (occurring d n).Within m) : m = occurring d n ∨ n.Within m := by
  unfold occurring at h ⊢
  split at h
  case _ => exact .inr h
  case _ => exact h.of_array

mutual

-- Every node within a placed one is what a declaration of its outline says.
theorem place_within (o : Outline) {earlier : List Node} {cursor : Nat} {n m : Node} {notices notices' : List Notice}
    (h : (place codec earlier cursor o).Yields notices n notices') (hm : n.Within m) :
    ∃ d ∈ o.flatten, m.Declares codec d ∧ ∀ count, m.count? = some count → d.occurs = some count := by
  have ⟨d, members⟩ := o
  have ⟨base, hn, hd, hc, hb⟩ := place_declares h
  have top : ∃ d' ∈ (Outline.item d members).flatten, base.Declares codec d' ∧
      ∀ count, base.count? = some count → d'.occurs = some count :=
    ⟨d, by simp [Outline.flatten], hd, fun _ h => nomatch hc.symm.trans h⟩
  rw [hn] at hm
  rcases within_occurring hm with hm | hm
  case inl =>
    rw [hm]
    exact ⟨d, by simp [Outline.flatten], declares_occurring hd, fun _ h => (count?_occurring hc).symm.trans h⟩
  case inr =>
    rcases hb with ⟨_, _, hb, _⟩ | ⟨_, _, _, nodes, _, _, _, _, hb, hs⟩ <;> rw [hb] at hm
    case inl => rwa [hm.of_field, ←hb]
    case inr =>
      rcases hm.of_group with hm | ⟨x, hx, hm⟩
      case inl => rwa [hm, ←hb]
      case inr =>
        have ⟨d', hd', h⟩ := placeAll_within members hs hx hm
        exact ⟨d', by simp [Outline.flatten, hd'], h⟩

theorem placeAll_within (os : List Outline) {earlier : List Node} {cursor stop : Nat} {nodes : List Node}
    {n m : Node} {notices notices' : List Notice}
    (h : (placeAll codec earlier cursor os).Yields notices (nodes, stop) notices') (hn : n ∈ nodes)
    (hm : n.Within m) :
    ∃ d ∈ Outline.flattenAll os, m.Declares codec d ∧ ∀ count, m.count? = some count → d.occurs = some count := by
  cases os
  case nil =>
    rw [placeAll] at h
    cases h.pure.left
    contradiction
  case cons o os =>
    have ⟨x, ns, _, he, hx, hns⟩ := placeAll_cases h
    rw [he] at hn
    rcases List.mem_cons.mp hn with hn | hn
    case inl =>
      have ⟨d, hd, h⟩ := place_within o hx (hn ▸ hm)
      exact ⟨d, by simp [Outline.flattenAll, hd], h⟩
    case inr =>
      have ⟨d, hd, h⟩ := placeAll_within os hns hn hm
      exact ⟨d, by simp [Outline.flattenAll, hd], h⟩

end

-- Everything in a compiled record but the record itself is what one of its declarations says.
theorem IsCompiled.within_declares {layout : Layout} {m : Node} (h : layout.IsCompiled) (hm : layout.root.Within m) :
    m = layout.root ∨ ∃ d ∈ layout.declarations, m.Declares layout.codec d ∧
      ∀ count, m.count? = some count → d.occurs = some count := by
  have ⟨_, h⟩ := h
  rcases hm.of_group with hm | ⟨n, hn, hm⟩
  case inl => exact .inl hm
  case inr =>
    have h := placeAll_within _ (ofDeclarations_cases h).right.right hn hm
    rw [Outline.flattenAll_ofDeclarations] at h
    exact .inr h

-- The parts of the record of a copybook are its declared items, in their order, and the items that each declaration
-- names as enclosing it are those that are around its part.
theorem nested_as_declared {statements : List Text} {declarations : List Declaration} {layout : Layout}
    (hd : Source.declarations statements = .ok declarations)
    (hl : (ofDeclarations declarations codec).result = (.ok layout, notices)) :
    List.Forall₂ (fun d p => p.node.Declares codec d ∧ p.node.count? = d.occurs ∧ d.parent = p.parent? ∧
      d.occursGroup = p.occursGroup? ∧ d.redefinesGroup = p.redefinesGroup?) declarations layout.parts := by
  have hp := placeAll_parts _ (ofDeclarations_cases hl).right.right .nil
  have hin : ∀ p ∈ Outline.partsAll [] (Outline.ofDeclarations declarations), Source.IsIn p.1 (.within p.2) :=
    Outline.isIn_of_placed (Source.declarationsFrom_placed hd) (by simp) fun _ _ => rfl
  have h := (List.forall₂_and_left _ _).mpr ⟨hin, hp⟩
  rw [←Outline.flattenAll_ofDeclarations declarations, ←Outline.map_partsAll _ [], List.forall₂_map_left_iff]
  exact h.imp fun _ _ ⟨hi, hd, hc, ha⟩ => ⟨hd, hc, Part.named_of_isIn hi ha⟩

-- The layout of `01 R. 05 G OCCURS 2. 10 A PIC X(2). 10 H REDEFINES A. 15 C PIC 9. 05 T PIC X.`
def nest : Layout where
  length := 5
  members := [.group ⟨"R".toList, 0, none, none, none⟩ 5 [
    .array 2 (.group ⟨"G".toList, 0, none, none, none⟩ 2 [
      .field ⟨"A".toList, 0, none, none, none⟩ (.text 2 false),
      .group ⟨"H".toList, 0, some "A".toList, none, none⟩ 1 [
        .field ⟨"C".toList, 0, none, none, none⟩ (.number .zoned ⟨1, 0, false⟩)]]),
    .field ⟨"T".toList, 4, none, none, none⟩ (.text 1 false)]]
  declarations := [
    ⟨1, "R".toList, none, none, none, none, none, none, none, "01 R".toList⟩,
    ⟨5, "G".toList, none, some 2, none, none, some "R".toList, none, none, "05 G OCCURS 2".toList⟩,
    ⟨10, "A".toList, some "X(2)".toList, none, none, none, some "G".toList, some "G".toList, none,
      "10 A PIC X(2)".toList⟩,
    ⟨10, "H".toList, none, none, some "A".toList, none, some "G".toList, some "G".toList, none,
      "10 H REDEFINES A".toList⟩,
    ⟨15, "C".toList, some "9".toList, none, none, none, some "H".toList, some "G".toList, some "H".toList,
      "15 C PIC 9".toList⟩,
    ⟨5, "T".toList, some "X".toList, none, none, none, some "R".toList, none, none, "05 T PIC X".toList⟩]
  codec := {}

theorem nest_compiles : (ofDeclarations nest.declarations {}).result = (.ok nest, []) := by
  unfold nest
  cbv

theorem declarations_nest : Source.declarations (nest.declarations.map (·.line)) = .ok nest.declarations := by
  with_unfolding_all rfl

-- `C` lies in `H`, which redefines an item, and with it in `G`, which has occurrences.
theorem nest_nested :
    Source.declarations (nest.declarations.map (·.line)) = .ok nest.declarations ∧
      (ofDeclarations nest.declarations {}).result = (.ok nest, []) ∧
      ∃ p, nest.parts[4]? = some p ∧ p.node.name = "C".toList ∧ p.parent? = some "H".toList ∧
        p.occursGroup? = some "G".toList ∧ p.redefinesGroup? = some "H".toList := by
  have h := nested_as_declared declarations_nest nest_compiles
  have ⟨hn, _, hp, ho, hr⟩ := h.get (i := 4) (by decide) (by decide)
  exact ⟨declarations_nest, nest_compiles, _, rfl, hn.name, hp.symm, ho.symm, hr.symm⟩

end Layout
end Copybook
