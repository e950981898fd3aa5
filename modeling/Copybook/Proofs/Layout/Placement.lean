import Mathlib
import Copybook.Layout.Placement
import Copybook.Proofs.Notice

/-!
What a placement gives. A node that has been placed starts where its declaration says, and everything in it has
been placed the same way; this holds of the tree that a layout is, without the declarations it comes from. What has
been noticed before does not matter for it.
-/

namespace Copybook

namespace Node

-- Where an item starts: at the end of what comes before it, or where the nearest earlier sibling of the name that
-- it redefines starts.
def Starts (earlier : List Node) (cursor : Nat) (item : Item) : Prop :=
  match item.redefines with
  | none => item.offset = cursor
  | some name => ∃ t, earlier.find? (·.name == name) = some t ∧ item.offset = t.offset

-- Where what follows a node starts.
def next (cursor : Nat) (n : Node) : Nat :=
  if n.item.redefines.isSome then cursor else cursor + n.length

theorem next_of_none {cursor : Nat} {n : Node} (h : n.item.redefines = none) :
    n.next cursor = cursor + n.length := by
  simp [next, h]

theorem next_of_redefines {cursor : Nat} {n : Node} {name : Text} (h : n.item.redefines = some name) :
    n.next cursor = cursor := by
  simp [next, h]

mutual

-- A node that has been laid out, `cursor` being the end of what comes before it and `earlier` its earlier
-- siblings, the nearest first.
def Laid (earlier : List Node) (cursor : Nat) : Node → Prop
  | field item _ => Starts earlier cursor item
  | group item length members =>
    Starts earlier cursor item ∧ LaidAll [] item.offset (item.offset + length) members
  | array _ element => element.Laid earlier cursor

-- Siblings that have been laid out one after another up to `stop`.
def LaidAll (earlier : List Node) (cursor stop : Nat) : List Node → Prop
  | [] => stop = cursor
  | n :: ns => n.Laid earlier cursor ∧ LaidAll (n :: earlier) (n.next cursor) stop ns

end

theorem LaidAll.le {earlier : List Node} {cursor stop : Nat} {ns : List Node}
    (h : LaidAll earlier cursor stop ns) : cursor ≤ stop := by
  induction ns generalizing earlier cursor <;> simp only [LaidAll] at h
  case nil => omega
  case cons n ns hi =>
    have := hi h.right
    cases hr : n.item.redefines
    case none =>
      rw [next_of_none hr] at this
      omega
    case some => rwa [next_of_redefines hr] at this

end Node

namespace Layout

open Noting

variable {codec : Codec} {earlier : List Node} {cursor : Nat} {d : Declaration} {notices notices' : List Notice}

-- The target of an item is the nearest earlier sibling of the name that it redefines.
theorem target?_yields {t : Option Node} (h : (target? earlier d).Yields notices t notices') :
    notices = notices' ∧ (d.redefines = none ∧ t = none ∨
      ∃ name s, d.redefines = some name ∧ earlier.find? (·.name == name) = some s ∧ t = some s) := by
  unfold target? at h
  split at h
  case _ hd => exact ⟨h.pure.right, .inl ⟨hd, h.pure.left.symm⟩⟩
  case _ name hd =>
    split at h
    case _ s hs => exact ⟨h.pure.right, .inr ⟨name, s, hd, hs, h.pure.left.symm⟩⟩
    case _ => exact absurd h (not_yields_throw _)

theorem fieldType_yields {format : Text} {type : FieldType}
    (h : (fieldType d format).Yields notices type notices') :
    notices = notices' ∧ Picture.classify format = .ok type := by
  unfold fieldType at h
  split at h
  case _ hc => exact ⟨h.pure.right, h.pure.left ▸ hc⟩
  case _ => exact absurd h (not_yields_throw _)

theorem initial_yields {type : FieldType} {bytes : Option Bytes}
    (h : (initial codec d type).Yields notices bytes notices') :
    notices = notices' ∧ ∀ literal, d.value = some literal →
      ∃ b, Initial.encode literal type type.length codec = .ok b := by
  unfold initial at h
  split at h
  case _ hv => exact ⟨h.pure.right, fun _ hl => nomatch hv.symm.trans hl⟩
  case _ literal hv =>
    split at h
    case _ b hb =>
      refine ⟨h.pure.right, fun literal' hl => ⟨b, ?_⟩⟩
      cases hv.symm.trans hl
      exact hb
    case _ => split at h <;> exact absurd h (not_yields_throw _)

theorem starts_of_target? {t : Option Node} {item : Item} (h : (target? earlier d).Yields notices t notices')
    (hr : item.redefines = d.redefines) (ho : item.offset = (t.map Node.offset).getD cursor) :
    Node.Starts earlier cursor item := by
  rw [Node.Starts, hr]
  rcases (target?_yields h).right with ⟨hd, ht⟩ | ⟨name, s, hd, hs, ht⟩ <;> rw [hd] <;> subst ht
  · exact ho
  · exact ⟨s, hs, ho⟩

theorem laid_occurring {n : Node} (h : n.Laid earlier cursor) : (occurring d n).Laid earlier cursor := by
  unfold occurring
  split
  · exact h
  · rwa [Node.Laid]

theorem item_occurring (d : Declaration) (n : Node) : (occurring d n).item = n.item := by
  unfold occurring
  split <;> rfl

-- The item of a declaration that starts where its target does, if it has one, or else at the cursor.
def itemOf (d : Declaration) (t : Option Node) (cursor : Nat) (bytes : Option Bytes) : Item :=
  ⟨d.name, (t.map Node.offset).getD cursor, d.redefines, d.value, bytes⟩

-- All that there is to the placing of an item: it is a field without members or a group of its members.
theorem place_cases {members : List Outline} {n : Node}
    (h : (place codec earlier cursor (.item d members)).Yields notices n notices') :
    ∃ t m, (target? earlier d).Yields notices t m ∧
      ((∃ format type bytes m₁ m₂, d.picture = some format ∧ members = [] ∧
          (fieldType d format).Yields m type m₁ ∧ (initial codec d type).Yields m₁ bytes m₂ ∧
          n = occurring d (.field (itemOf d t cursor bytes) type) ∧
          (compare d t n).Yields m₂ () notices') ∨
        (∃ nodes stop length bytes m₁ m₂ m₃, d.picture = none ∧
          (placeAll codec [] ((t.map Node.offset).getD cursor) members).Yields m (nodes, stop) m₁ ∧
          m₂ = (if nodes.isEmpty then m₁ ++ [.emptyGroup d.name] else m₁) ∧
          length = stop - (t.map Node.offset).getD cursor ∧
          (initial codec d (.text length false)).Yields m₂ bytes m₃ ∧
          n = occurring d (.group (itemOf d t cursor bytes) length nodes) ∧
          (compare d t n).Yields m₃ () notices')) := by
  rw [place] at h
  have ⟨t, m, ht, h⟩ := h.bind
  refine ⟨t, m, ht, ?_⟩
  simp only at h
  split at h
  case _ format hf =>
    have ⟨type, m₁, htype, h⟩ := h.bind
    have ⟨bytes, m₂, hbytes, h⟩ := h.bind
    have ⟨_, m₃, hc, h⟩ := h.bind
    split at h
    case _ =>
      have ⟨hn, hm⟩ := h.pure
      subst hn hm
      exact .inl ⟨format, type, bytes, m₁, m₂, hf, rfl, htype, hbytes, rfl, hc⟩
    case _ => exact absurd h (not_yields_throw _)
  case _ hf =>
    have ⟨(nodes, stop), m₁, hm, h⟩ := h.bind
    have ⟨m₂, hm₂, h⟩ : ∃ m₂, m₂ = (if nodes.isEmpty then m₁ ++ [.emptyGroup d.name] else m₁) ∧
        Yields (do
          let bytes ← initial codec d (.text (stop - (t.map Node.offset).getD cursor) false)
          let n := occurring d (.group (itemOf d t cursor bytes) (stop - (t.map Node.offset).getD cursor) nodes)
          compare d t n
          return n) m₂ n notices' := by
      refine ⟨_, rfl, ?_⟩
      split at h
      case isTrue he =>
        have ⟨_, m₂, hn, h⟩ := h.bind
        rw [if_pos he, ←hn.note]
        exact h
      case isFalse he =>
        rw [if_neg he]
        exact h
    have ⟨bytes, m₃, hbytes, h⟩ := h.bind
    have ⟨_, m₄, hc, h⟩ := h.bind
    have ⟨hn, hm'⟩ := h.pure
    subst hn hm'
    exact .inr ⟨nodes, stop, _, bytes, m₁, m₂, m₃, hf, hm, hm₂, rfl, hbytes, rfl, hc⟩

theorem placeAll_cases {o : Outline} {os : List Outline} {nodes : List Node} {stop : Nat}
    (h : (placeAll codec earlier cursor (o :: os)).Yields notices (nodes, stop) notices') :
    ∃ n ns m, nodes = n :: ns ∧ (place codec earlier cursor o).Yields notices n m ∧
      (placeAll codec (n :: earlier) (advance cursor o.declaration n) os).Yields m (ns, stop) notices' := by
  rw [placeAll] at h
  have ⟨n, m, hn, h⟩ := h.bind
  have ⟨(ns, stop'), _, hns, h⟩ := h.bind
  have ⟨he, hm⟩ := h.pure
  cases he
  subst hm
  exact ⟨n, ns, m, rfl, hn, hns⟩

mutual

theorem place_laid (o : Outline) {n : Node} {earlier : List Node} {cursor : Nat} {notices notices' : List Notice}
    (h : (place codec earlier cursor o).Yields notices n notices') :
    n.Laid earlier cursor ∧ n.item.redefines = o.declaration.redefines := by
  have ⟨d, members⟩ := o
  have ⟨t, m, ht, h⟩ := place_cases h
  cases h
  case inl h =>
    have ⟨format, type, bytes, _, _, _, _, _, _, hn, _⟩ := h
    rw [hn, item_occurring]
    refine ⟨laid_occurring ?_, rfl⟩
    rw [Node.Laid]
    exact starts_of_target? ht rfl rfl
  case inr h =>
    have ⟨nodes, stop, length, bytes, _, _, _, _, hm, _, hl, _, hn, _⟩ := h
    have hm := placeAll_laid members hm
    have := hm.le
    rw [hn, item_occurring]
    refine ⟨laid_occurring ?_, rfl⟩
    rw [Node.Laid]
    refine ⟨starts_of_target? ht rfl rfl, ?_⟩
    rwa [show stop = (itemOf d t cursor bytes).offset + length by simp only [itemOf]; omega] at hm

theorem placeAll_laid (os : List Outline) {nodes : List Node} {stop : Nat} {earlier : List Node} {cursor : Nat}
    {notices notices' : List Notice} (h : (placeAll codec earlier cursor os).Yields notices (nodes, stop) notices') :
    Node.LaidAll earlier cursor stop nodes := by
  cases os
  case nil =>
    rw [placeAll] at h
    cases h.pure.left
    rfl
  case cons o os =>
    have ⟨n, ns, m, he, hn, hns⟩ := placeAll_cases h
    have ⟨hl, hr⟩ := place_laid o hn
    rw [he, Node.LaidAll]
    refine ⟨hl, ?_⟩
    have hns := placeAll_laid os hns
    rwa [advance, ←hr] at hns

end

section Steady

variable (codec : Codec)

theorem refuse_steady {α : Type} (d : Declaration) (fault : SourceFault) : (refuse d fault : Placing α).Steady :=
  .throw _

theorem target?_steady (earlier : List Node) (d : Declaration) : (target? earlier d).Steady := by
  unfold target?
  split
  · exact .pure _
  · split
    · exact .pure _
    · exact refuse_steady _ _

theorem fieldType_steady (d : Declaration) (format : Text) : (fieldType d format).Steady := by
  unfold fieldType
  split
  · exact .pure _
  · exact refuse_steady _ _

theorem initial_steady (d : Declaration) (type : FieldType) : (initial codec d type).Steady := by
  unfold initial
  split
  · exact .pure _
  · split
    · exact .pure _
    · split
      · exact refuse_steady _ _
      · exact .throw _

theorem compare_steady (d : Declaration) (t : Option Node) (n : Node) : (compare d t n).Steady := by
  unfold compare
  split
  · exact .pure _
  · split
    · exact .note _
    · exact .pure _

mutual

theorem place_steady (o : Outline) (earlier : List Node) (cursor : Nat) : (place codec earlier cursor o).Steady := by
  have ⟨d, members⟩ := o
  rw [place]
  refine (target?_steady earlier d).bind fun t => ?_
  simp only
  split
  · refine (fieldType_steady d _).bind fun type => (initial_steady codec d type).bind fun bytes => ?_
    refine (compare_steady _ _ _).bind fun _ => ?_
    split
    · exact .pure _
    · exact refuse_steady _ _
  · refine (placeAll_steady members _ _).bind ?_
    rintro ⟨nodes, stop⟩
    have rest (length : Nat) (item : Option Bytes → Item) : Steady (do
        let bytes ← initial codec d (.text length false)
        let n := occurring d (.group (item bytes) length nodes)
        compare d t n
        return n) :=
      (initial_steady codec _ _).bind fun _ => (compare_steady _ _ _).bind fun _ => .pure _
    simp only
    split
    · exact (Steady.note _).bind fun _ => rest _ _
    · exact rest _ _

theorem placeAll_steady (os : List Outline) (earlier : List Node) (cursor : Nat) :
    (placeAll codec earlier cursor os).Steady := by
  cases os
  case nil =>
    rw [placeAll]
    exact .pure _
  case cons o os =>
    rw [placeAll]
    exact (place_steady o _ _).bind fun n => (placeAll_steady os _ _).bind fun _ => .pure _

end

-- What a copybook compiles to does not depend on what has been noticed before.
theorem compile_steady (source : Text) : (compile source codec).Steady :=
  (Steady.lift _).bind fun _ => (placeAll_steady codec _ _ _).bind fun _ => .pure _

end Steady

-- A layout is compiled if it is the one of its own declarations, under its own conversion of text.
def IsCompiled (layout : Layout) : Prop :=
  ∃ notices, (ofDeclarations layout.declarations layout.codec).result = (.ok layout, notices)

theorem ofDeclarations_cases {declarations : List Declaration} {layout : Layout}
    (h : (ofDeclarations declarations codec).result = (.ok layout, notices)) :
    layout.declarations = declarations ∧ layout.codec = codec ∧
      (placeAll codec [] 0 (Outline.ofDeclarations declarations)).Yields [] (layout.members, layout.length)
        notices := by
  have ⟨(members, length), m, hm, h⟩ := (yields_result h).bind
  have ⟨hl, hn⟩ := h.pure
  subst hl hn
  exact ⟨rfl, rfl, hm⟩

namespace IsCompiled

variable {layout : Layout}

theorem ofDeclarations {declarations : List Declaration}
    (h : (Layout.ofDeclarations declarations codec).result = (.ok layout, notices)) : layout.IsCompiled := by
  have ⟨hd, hc, _⟩ := ofDeclarations_cases h
  exact ⟨notices, by rw [hd, hc, h]⟩

theorem ofStatements {statements : List Text}
    (h : (Layout.ofStatements statements codec).result = (.ok layout, notices)) : layout.IsCompiled := by
  have ⟨declarations, m, hd, h⟩ := (yields_result h).bind
  have ⟨_, hm⟩ := hd.lift
  subst hm
  exact ofDeclarations h

theorem laidAll (h : layout.IsCompiled) : Node.LaidAll [] 0 layout.length layout.members := by
  have ⟨_, h⟩ := h
  exact placeAll_laid _ (ofDeclarations_cases h).right.right

theorem laid (h : layout.IsCompiled) : layout.root.Laid [] 0 := by
  rw [root, Node.Laid]
  refine ⟨rfl, ?_⟩
  simpa using h.laidAll

end IsCompiled

-- The layout of `01 R. 05 A PIC 9(2) OCCURS 2. 05 B REDEFINES A PIC X(3). 05 C PIC X.`
def sample : Layout where
  length := 5
  members := [.group ⟨"R".toList, 0, none, none, none⟩ 5 [
    .array 2 (.field ⟨"A".toList, 0, none, none, none⟩ (.number .zoned ⟨2, 0, false⟩)),
    .field ⟨"B".toList, 0, some "A".toList, none, none⟩ (.text 3 false),
    .field ⟨"C".toList, 4, none, none, none⟩ (.text 1 false)]]
  declarations := [
    ⟨1, "R".toList, none, none, none, none, none, none, none, "01 R".toList⟩,
    ⟨5, "A".toList, some "9(2)".toList, some 2, none, none, some "R".toList, none, none,
      "05 A PIC 9(2) OCCURS 2".toList⟩,
    ⟨5, "B".toList, some "X(3)".toList, none, some "A".toList, none, some "R".toList, none, none,
      "05 B REDEFINES A PIC X(3)".toList⟩,
    ⟨5, "C".toList, some "X".toList, none, none, none, some "R".toList, none, none, "05 C PIC X".toList⟩]
  codec := {}

theorem sample_isCompiled : sample.IsCompiled :=
  ⟨[], by unfold sample; cbv⟩

end Layout
end Copybook
