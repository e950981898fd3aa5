import Copybook.Proofs.Except
import Copybook.Proofs.Layout.Tiling
import Copybook.Proofs.Record.Place

/-!
Nothing reaches past the end of a record unless a redefinition was noticed to be longer than what it redefines.
Each redefinition is only compared with its own target, when it is placed; that the target ends in time is known by
then, be it a redefinition itself or not.
-/

namespace Copybook

namespace Notice

def isLongerRedefinition : Notice → Bool
  | longerRedefinition .. => true
  | _ => false

-- None of the notices is that a redefinition is longer than what it redefines.
def NoneLonger (notices : List Notice) : Prop :=
  ∀ n ∈ notices, n.isLongerRedefinition = false

theorem noneLonger_concat {notices : List Notice} {n : Notice} :
    NoneLonger (notices ++ [n]) ↔ NoneLonger notices ∧ n.isLongerRedefinition = false := by
  simp [NoneLonger, or_imp, forall_and]

end Notice

namespace Node

-- The parts of a node with each of their occurrences, itself among them: how far an occurrence lies from the first
-- one, for every choice of positions in the arrays around it.
inductive Occurs (root : Node) : Node → Nat → Prop
  | root : Occurs root root 0
  | member {item : Item} {length : Nat} {members : List Node} {n : Node} {shift : Nat} :
    Occurs root (group item length members) shift → n ∈ members → Occurs root n shift
  | element {count : Nat} {n : Node} {shift k : Nat} :
    Occurs root (array count n) shift → k < count → Occurs root n (shift + k * n.length)

theorem Occurs.within {root n : Node} {shift : Nat} (h : root.Occurs n shift) : root.Within n := by
  induction h
  case root => exact .root
  case member hm hi => exact hi.member hm
  case element hi => exact hi.element

-- A node is at most as long as what it redefines.
def Fits (earlier : List Node) (n : Node) : Prop :=
  ∀ name t, n.item.redefines = some name → earlier.find? (·.name == name) = some t → n.length ≤ t.length

mutual

-- No redefinition in a node is longer than what it redefines.
def Snug : Node → Prop
  | field .. => True
  | group _ _ members => SnugAll [] members
  | array _ element => element.Snug

def SnugAll (earlier : List Node) : List Node → Prop
  | [] => True
  | n :: ns => n.Fits earlier ∧ n.Snug ∧ SnugAll (n :: earlier) ns

end

theorem SnugAll.member {earlier : List Node} {n : Node} {ns : List Node} (h : SnugAll earlier ns) (hn : n ∈ ns) :
    n.Snug := by
  induction ns generalizing earlier <;> simp only [SnugAll] at h
  case nil => contradiction
  case cons m ms hi =>
    cases List.mem_cons.mp hn
    case inl hn => exact hn ▸ h.right.left
    case inr hn => exact hi h.right.right hn

theorem Snug.within {root n : Node} (h : root.Snug) (hn : root.Within n) : n.Snug := by
  induction hn
  case root => exact h
  case member hm hi =>
    rw [Snug] at hi
    exact hi.member hm
  case element hi => rwa [Snug] at hi

-- What redefines an item ends where that one does at the latest, so nothing ends after what follows it starts.
theorem Laid.end_le_next {earlier : List Node} {cursor : Nat} {n : Node} (h : n.Laid earlier cursor)
    (hf : n.Fits earlier) (he : ∀ m ∈ earlier, m.offset + m.length ≤ cursor) :
    n.offset + n.length ≤ n.next cursor := by
  cases hr : n.item.redefines
  case none => rw [next_of_none hr, offset, h.starts.offset hr]
  case some name =>
    have ⟨t, ht, ho⟩ := h.redefining hr
    have hl := hf name t hr ht
    have := he t (List.mem_of_find?_eq_some ht)
    rw [next_of_redefines hr]
    omega

theorem LaidAll.member_end_le {earlier : List Node} {cursor stop : Nat} {n : Node} {ns : List Node}
    (h : LaidAll earlier cursor stop ns) (hs : SnugAll earlier ns)
    (he : ∀ m ∈ earlier, m.offset + m.length ≤ cursor) (hn : n ∈ ns) : n.offset + n.length ≤ stop := by
  induction ns generalizing earlier cursor <;> simp only [LaidAll, SnugAll] at h hs
  case nil => contradiction
  case cons m ms hi =>
    have hm := h.left.end_le_next hs.left he
    cases List.mem_cons.mp hn
    case inl hn =>
      have := h.right.le
      rw [hn]
      omega
    case inr hn =>
      refine hi h.right hs.right.right (fun m' hm' => ?_) hn
      cases List.mem_cons.mp hm'
      case inl hm' => exact hm' ▸ hm
      case inr hm' =>
        have := he m' hm'
        have : cursor ≤ m.next cursor := by
          unfold next
          split <;> omega
        omega

-- Every occurrence of every part of a node ends where the node does at the latest.
theorem Laid.occurs_end_le {root n : Node} {earlier : List Node} {cursor shift : Nat} (h : root.Laid earlier cursor)
    (hs : root.Snug) (hn : root.Occurs n shift) : n.offset + shift + n.length ≤ root.offset + root.length := by
  induction hn
  case root => exact Nat.le_refl _
  case member item length members n shift hg hm hi =>
    have hg := hg.within
    have hm := (h.group hg).member_end_le (by simpa [Snug] using hs.within hg) nofun hm
    simp only [offset, Node.length, Node.item] at *
    omega
  case element count n shift k _ hk hi =>
    have hk : k * n.length + n.length ≤ count * n.length := by
      rw [←Nat.succ_mul]
      exact Nat.mul_le_mul_right _ hk
    simp only [offset, Node.length, Node.item] at *
    omega

section Lookup

theorem mem_of_mem_firstOfEach {n : Node} {ns : List Node} (h : n ∈ firstOfEach ns) : n ∈ ns :=
  List.mem_of_find?_eq_some (find?_of_mem_firstOfEach h)

mutual

-- What can be named within a node is a part of it, and only through groups: it lies as far from its first occurrence.
theorem Occurs.visible {root m : Node} {shift : Nat} (n : Node) (h : root.Occurs n shift) (hm : m ∈ n.visible) :
    root.Occurs m shift := by
  cases n <;> simp only [Node.visible] at hm
  case group item length members =>
    cases List.mem_append.mp (mem_of_mem_firstOfEach hm)
    case inl hm => exact h.member (List.mem_filter.mp hm).left
    case inr hm => exact Occurs.visibleAll members (fun _ => h.member) hm
  all_goals contradiction

theorem Occurs.visibleAll {root m : Node} {shift : Nat} (ns : List Node) (h : ∀ n ∈ ns, root.Occurs n shift)
    (hm : m ∈ Node.visibleAll ns) : root.Occurs m shift := by
  cases ns <;> simp only [Node.visibleAll] at hm
  case nil => contradiction
  case cons n ns =>
    cases List.mem_append.mp hm
    case inl hm => exact Occurs.visible n (h n (by simp)) hm
    case inr hm => exact Occurs.visibleAll ns (fun n hn => h n (by simp [hn])) hm

end

theorem Occurs.lookup? {root n m : Node} {shift : Nat} {name : Text} (h : root.Occurs n shift)
    (hm : n.lookup? name = some m) : root.Occurs m shift :=
  h.visible n (List.mem_of_find?_eq_some hm)

end Lookup
end Node

namespace Place

-- What keys mean is an occurrence of a part of the record.
def OccursIn (p : Place) (root : Node) : Prop :=
  root.Occurs p.node p.shift

theorem root_occursIn (layout : Layout) : (root layout).OccursIn layout.root :=
  .root

namespace OccursIn

variable {root : Node} {p q : Place}

theorem resolve {key : Value} (h : p.OccursIn root) (hr : p.resolve key = .ok q) : q.OccursIn root := by
  rw [OccursIn] at h
  unfold Place.resolve at hr
  split at hr
  case _ item length members hp =>
    split at hr <;> try contradiction
    case _ name =>
      simp only at hr
      split at hr <;> cases hr
      case _ n hn => exact h.lookup? (hp ▸ hn)
  case _ count n hp =>
    split at hr <;> try contradiction
    case _ index =>
      split at hr <;> cases hr
      case _ k hk =>
        rw [hp] at h
        exact h.element (position?_lt hk)
  case _ => contradiction

theorem locate {keys : List Value} (h : p.OccursIn root) (hl : p.locate keys = .ok q) : q.OccursIn root := by
  induction keys generalizing p
  case nil =>
    cases hl
    exact h
  case cons key keys hi =>
    have ⟨p', hp', hl⟩ := bind_eq_ok_iff.mp hl
    exact hi (h.resolve hp') hl

end OccursIn
end Place

namespace Layout

open Noting Notice

variable {codec : Codec} {earlier : List Node} {d : Declaration} {notices notices' : List Notice}

-- A comparison with the target finds it long enough unless it makes a notice.
theorem fits_of_compare {n : Node} {t : Option Node} (ht : (target? earlier d).Yields notices t notices')
    (hr : n.item.redefines = d.redefines) {m m' : List Notice} (h : (compare d t n).Yields m () m')
    (hm : NoneLonger m') : NoneLonger m ∧ n.Fits earlier := by
  rw [Node.Fits, hr]
  rcases (target?_yields ht).right with ⟨hd, ht⟩ | ⟨name, s, hd, hs, ht⟩ <;> subst ht
  case inl => exact ⟨h.pure.right ▸ hm, fun name _ hn => nomatch hd.symm.trans hn⟩
  case inr =>
    simp only [compare] at h
    split at h
    case isTrue =>
      rw [h.note, noneLonger_concat] at hm
      exact absurd hm.right (by simp [isLongerRedefinition])
    case isFalse hl =>
      refine ⟨h.pure.right ▸ hm, fun name' t' hn ht' => ?_⟩
      cases hd.symm.trans hn
      cases hs.symm.trans ht'
      omega

theorem snug_occurring {n : Node} (h : n.Snug) : (occurring d n).Snug := by
  unfold occurring
  split
  · exact h
  · rwa [Node.Snug]

mutual

theorem place_snug (o : Outline) {n : Node} {earlier : List Node} {cursor : Nat} {notices notices' : List Notice}
    (h : (place codec earlier cursor o).Yields notices n notices') (hq : NoneLonger notices') :
    NoneLonger notices ∧ n.Fits earlier ∧ n.Snug := by
  have ⟨d, members⟩ := o
  have ⟨t, m, ht, h⟩ := place_cases h
  cases (target?_yields ht).left
  cases h
  case inl h =>
    have ⟨format, type, bytes, _, _, _, _, htype, hbytes, hn, hc⟩ := h
    cases (fieldType_yields htype).left
    cases (initial_yields hbytes).left
    have ⟨hq, hf⟩ := fits_of_compare ht (by rw [hn, item_occurring]; rfl) hc hq
    refine ⟨hq, hf, hn ▸ snug_occurring ?_⟩
    rw [Node.Snug]
    trivial
  case inr h =>
    have ⟨nodes, stop, length, bytes, m₁, m₂, _, _, hm, he, _, hbytes, hn, hc⟩ := h
    cases (initial_yields hbytes).left
    have ⟨hq, hf⟩ := fits_of_compare ht (by rw [hn, item_occurring]; rfl) hc hq
    have hq : NoneLonger m₁ := by
      rw [he] at hq
      split at hq
      · exact (noneLonger_concat.mp hq).left
      · exact hq
    have ⟨hq, hs⟩ := placeAll_snug members hm hq
    refine ⟨hq, hf, hn ▸ snug_occurring ?_⟩
    rwa [Node.Snug]

theorem placeAll_snug (os : List Outline) {nodes : List Node} {stop : Nat} {earlier : List Node} {cursor : Nat}
    {notices notices' : List Notice} (h : (placeAll codec earlier cursor os).Yields notices (nodes, stop) notices')
    (hq : NoneLonger notices') : NoneLonger notices ∧ Node.SnugAll earlier nodes := by
  cases os
  case nil =>
    rw [placeAll] at h
    have ⟨he, hm⟩ := h.pure
    cases he
    exact ⟨hm ▸ hq, trivial⟩
  case cons o os =>
    have ⟨n, ns, m, he, hn, hns⟩ := placeAll_cases h
    have ⟨hq, hns⟩ := placeAll_snug os hns hq
    have ⟨hq, hf, hn⟩ := place_snug o hn hq
    rw [he, Node.SnugAll]
    exact ⟨hq, hf, hn, hns⟩

end

-- A layout is snug if it is the one of its own declarations and no redefinition in them has been noticed to be
-- longer than what it redefines.
def IsSnug (layout : Layout) : Prop :=
  ∃ notices, (ofDeclarations layout.declarations layout.codec).result = (.ok layout, notices) ∧ NoneLonger notices

namespace IsSnug

variable {layout : Layout}

theorem isCompiled (h : layout.IsSnug) : layout.IsCompiled :=
  have ⟨notices, hl, _⟩ := h
  ⟨notices, hl⟩

theorem ofStatements {statements : List Text}
    (h : (Layout.ofStatements statements codec).result = (.ok layout, notices)) (hq : NoneLonger notices) :
    layout.IsSnug := by
  have ⟨declarations, m, hd, h⟩ := (yields_result h).bind
  have ⟨_, hm⟩ := hd.lift
  subst hm
  have ⟨hd, hc, _⟩ := ofDeclarations_cases h
  exact ⟨notices, by rw [hd, hc]; exact h, hq⟩

theorem ofSource {source : Text} (h : (compile source codec).result = (.ok layout, notices))
    (hq : NoneLonger notices) : layout.IsSnug :=
  ofStatements h hq

theorem snug (h : layout.IsSnug) : layout.root.Snug := by
  have ⟨_, h, hq⟩ := h
  rw [root, Node.Snug]
  exact (placeAll_snug _ (ofDeclarations_cases h).right.right hq).right

theorem occurs_end_le (h : layout.IsSnug) {n : Node} {shift : Nat} (hn : layout.root.Occurs n shift) :
    n.offset + shift + n.length ≤ layout.length := by
  have := h.isCompiled.laid.occurs_end_le h.snug hn
  simpa [root, Node.offset, Node.item, Node.length] using this

end IsSnug

theorem sample_isSnug : sample.IsSnug :=
  ⟨[], by unfold sample; cbv, nofun⟩

end Layout
end Copybook
