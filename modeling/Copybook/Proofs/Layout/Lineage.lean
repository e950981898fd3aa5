import Copybook.Layout.Template
import Copybook.Proofs.Layout.Nesting

/-!
The fields of a record in all their occurrences, each with the groups that the occurrence lies in. Of the literals that
these and the field have, the innermost one is what the field holds in a fresh record.
-/

namespace Copybook

open Bytes (slice)

-- An occurrence of a field that is no part of a redefinition, and those of the groups around it, the innermost first.
structure Lineage where
  field : Node × Nat
  around : List (Node × Nat)

namespace Lineage

-- Where an occurrence starts.
def first (t : Node × Nat) : Nat :=
  t.1.offset + t.2

def start (l : Lineage) : Nat :=
  first l.field

def stop (l : Lineage) : Nat :=
  l.start + l.field.1.length

-- The same occurrence, with one more group around it.
def under (g : Node × Nat) (l : Lineage) : Lineage :=
  { l with around := l.around ++ [g] }

-- The value that an occurrence has, and where it is written.
def value? (t : Node × Nat) : Option (Nat × Bytes) :=
  t.1.item.initial.map fun v => (first t, v)

-- The value of an occurrence, if it has one, is written over a span.
def Spans (t : Node × Nat) (start stop : Nat) : Prop :=
  ∀ origin v, value? t = some (origin, v) → origin = start ∧ start + v.length = stop

-- The innermost value around the field, its own if it has one.
def source? (l : Lineage) : Option (Nat × Bytes) :=
  (l.field :: l.around).findSome? value?

-- The bytes of a span if a value has been written around it.
def shown (b : Bytes) (start stop : Nat) : Option (Nat × Bytes) → Bytes
  | none => slice b start stop
  | some (origin, v) => slice v (start - origin) (stop - origin)

-- The bytes that the field has if the record had those bytes before its values were written.
def held (l : Lineage) (b : Bytes) : Bytes :=
  shown b l.start l.stop l.source?

def hasLiteral (t : Node × Nat) : Bool :=
  t.1.item.value.isSome

-- The innermost value is that of the innermost item with a literal.
theorem findSome?_value? {ts : List (Node × Nat)} (h : ∀ t ∈ ts, t.1.item.initial.isSome = hasLiteral t) :
    ts.findSome? value? = (ts.find? hasLiteral).bind value? := by
  induction ts
  case nil => rfl
  case cons t ts hi =>
    have ⟨ht, hts⟩ := List.forall_mem_cons.mp h
    rw [List.findSome?_cons, List.find?_cons, ←ht, hi hts]
    cases hv : t.1.item.initial <;> simp [value?, hv]

theorem source?_under (l : Lineage) (t : Node × Nat) : (l.under t).source? = l.source?.or (value? t) := by
  rw [source?, source?, under, ←List.cons_append, List.findSome?_append, List.findSome?_singleton]

end Lineage

namespace Node

mutual

-- The fields that neither redefine anything nor are part of something that does, in all occurrences.
def lineages (shift : Nat) : Node → List Lineage
  | field item type => if item.redefines.isSome then [] else [⟨(field item type, shift), []⟩]
  | group item length members =>
    if item.redefines.isSome then []
    else (lineagesAll shift members).map (·.under (group item length members, shift))
  | array count element =>
    (List.range count).flatMap fun k => element.lineages (shift + k * element.length)

def lineagesAll (shift : Nat) : List Node → List Lineage
  | [] => []
  | n :: ns => n.lineages shift ++ lineagesAll shift ns

end

mutual

theorem map_lineages (n : Node) (shift : Nat) : (n.lineages shift).map (·.field) = n.tiles shift := by
  cases n <;> simp only [lineages, tiles]
  case field => split <;> rfl
  case group item length members =>
    split
    · rfl
    · rw [List.map_map, ←map_lineagesAll members shift]
      rfl
  case array count element => simp [List.map_flatMap, map_lineages element]

theorem map_lineagesAll (ns : List Node) (shift : Nat) : (lineagesAll shift ns).map (·.field) = tilesAll shift ns := by
  cases ns
  case nil => rfl
  case cons n ns => rw [lineagesAll, tilesAll, List.map_append, map_lineages n, map_lineagesAll ns]

end

theorem lineages_of_redefines (n : Node) {name : Text} (h : n.item.redefines = some name) (shift : Nat) :
    n.lineages shift = [] := by
  have := map_lineages n shift
  rw [tiles_of_redefines n h] at this
  simpa using this

section Literal

variable {codec : Codec} {n : Node}

-- What an item starts with is its literal, encoded: nothing if it has none.
def CarriesLiteral (codec : Codec) (n : Node) : Prop :=
  n.item.initial.map .ok = n.item.value.map fun literal => Initial.encode literal n.storage n.storage.length codec

theorem Declares.carriesLiteral {d : Declaration} (h : n.Declares codec d) : n.CarriesLiteral codec := by
  rw [CarriesLiteral, h.value, h.initial]

theorem CarriesLiteral.isSome (h : n.CarriesLiteral codec) : n.item.initial.isSome = n.item.value.isSome := by
  simpa using congrArg Option.isSome h

theorem CarriesLiteral.encode {literal : Text} (h : n.CarriesLiteral codec) (hv : n.item.value = some literal) :
    ∃ b, n.item.initial = some b ∧ Initial.encode literal n.storage n.storage.length codec = .ok b := by
  rw [CarriesLiteral, hv] at h
  have ⟨b, hb, he⟩ := Option.map_eq_some_iff.mp h
  exact ⟨b, hb, he.symm⟩

end Literal

end Node

namespace Lineage

variable {root n : Node} {l : Lineage}

-- A lineage is that of a field among groups, all of them in a node.
structure IsIn (l : Lineage) (root : Node) : Prop where
  field : ∃ item type, l.field.1 = .field item type
  around : ∀ g ∈ l.around, ∃ item length members, g.1 = .group item length members
  within : ∀ t ∈ l.field :: l.around, root.Within t.1

theorem IsIn.mono (h : l.IsIn n) (hn : root.Within n) : l.IsIn root :=
  ⟨h.field, h.around, fun t ht => hn.trans (h.within t ht)⟩

theorem IsIn.under {item : Item} {length shift : Nat} {members : List Node}
    (h : l.IsIn (.group item length members)) :
    (l.under (.group item length members, shift)).IsIn (.group item length members) :=
  ⟨h.field, List.forall_mem_append.mpr ⟨h.around, List.forall_mem_singleton.mpr ⟨_, _, _, rfl⟩⟩,
    List.forall_mem_append.mpr ⟨h.within, List.forall_mem_singleton.mpr .root⟩⟩

-- What a field holds by the literals of its copybook: its own, or its part of that of the innermost group around it
-- that has one, or low values.
structure Shows (l : Lineage) (codec : Codec) (held : Bytes) : Prop where
  own : ∀ literal, l.field.1.item.value = some literal →
    Initial.encode literal l.field.1.storage l.field.1.length codec = .ok held
  around : l.field.1.item.value = none → ∀ g, l.around.find? hasLiteral = some g →
    ∃ literal b, g.1.item.value = some literal ∧
      Initial.encode literal (.text g.1.length false) g.1.length codec = .ok b ∧ b.length = g.1.length ∧
      first g ≤ l.start ∧ l.stop ≤ first g + g.1.length ∧ held = slice b (l.start - first g) (l.stop - first g)
  zeros : l.field.1.item.value = none → l.around.find? hasLiteral = none →
    held = List.replicate l.field.1.length 0

end Lineage

namespace Node

mutual

theorem isIn_of_lineages (n : Node) {shift : Nat} {l : Lineage} (h : l ∈ n.lineages shift) : l.IsIn n := by
  cases n <;> simp only [lineages] at h
  case field =>
    split at h
    · contradiction
    · rw [List.mem_singleton.mp h]
      exact ⟨⟨_, _, rfl⟩, nofun, List.forall_mem_singleton.mpr .root⟩
  case group item length members =>
    split at h
    · contradiction
    · have ⟨l', hl, he⟩ := List.mem_map.mp h
      have ⟨n, hn, hi⟩ := isIn_of_lineagesAll members hl
      rw [←he]
      exact (hi.mono (Within.root.member hn)).under
  case array count element =>
    have ⟨k, _, h⟩ := List.mem_flatMap.mp h
    exact (isIn_of_lineages element h).mono Within.root.element

theorem isIn_of_lineagesAll (ns : List Node) {shift : Nat} {l : Lineage} (h : l ∈ lineagesAll shift ns) :
    ∃ n ∈ ns, l.IsIn n := by
  cases ns
  case nil => contradiction
  case cons n ns =>
    rw [lineagesAll] at h
    rcases List.mem_append.mp h with h | h
    · exact ⟨n, by simp, isIn_of_lineages n h⟩
    · have ⟨m, hm, h⟩ := isIn_of_lineagesAll ns h
      exact ⟨m, by simp [hm], h⟩

end

end Node

namespace Layout

def lineages (layout : Layout) : List Lineage :=
  layout.root.lineages 0

-- In a compiled record every item starts with its literal.
theorem IsCompiled.carriesLiteral {layout : Layout} {n : Node} (h : layout.IsCompiled) (hn : layout.root.Within n) :
    n.CarriesLiteral layout.codec := by
  rcases h.within_declares hn with hn | ⟨d, _, hd, _⟩
  case inl =>
    rw [hn]
    rfl
  case inr => exact hd.carriesLiteral

end Layout
end Copybook
