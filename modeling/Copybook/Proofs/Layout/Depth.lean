import Copybook.Proofs.Layout.Nesting

/-!
How deep records go. The levels of a copybook rise from an item to what it holds, and there are forty-nine of them; so
the parts of a record lie in no more than as many groups, each of them perhaps in an array.
-/

namespace Copybook

namespace Source

variable {lines : List Text} {ds : List Declaration}

theorem level_of_declarationsFrom {n : Nesting} (h : declarationsFrom n lines = .ok ds) :
    ∀ d ∈ ds, 0 < d.level ∧ d.level ≤ 49 := by
  induction lines generalizing n ds <;> simp only [declarationsFrom] at h
  case nil =>
    cases h
    exact List.forall_mem_nil _
  case cons line lines hi =>
    split at h
    case isTrue => exact hi h
    case isFalse =>
      obtain ⟨⟨level, name, c⟩, _, h⟩ := bind_eq_ok_iff.mp h
      simp only at h
      split at h
      case isTrue => exact hi h
      case isFalse =>
        obtain ⟨hl, h⟩ := check_eq_ok_iff.mp h
        obtain ⟨ds', hds, h⟩ := bind_eq_ok_iff.mp h
        cases h
        rw [not_or, Nat.not_lt, Nat.not_lt] at hl
        exact List.forall_mem_cons.mpr ⟨hl, hi hds⟩

end Source

namespace Outline

mutual

-- The levels rise from `level` to the item and from the item to its members, and not above forty-nine.
def Rising (level : Nat) : Outline → Prop
  | item d members => level < d.level ∧ d.level ≤ 49 ∧ RisingAll d.level members

def RisingAll (level : Nat) : List Outline → Prop
  | [] => True
  | o :: os => o.Rising level ∧ RisingAll level os

end

theorem risingAll_ofDeclarations {level : Nat} {ds : List Declaration}
    (h : ∀ d ∈ ds, level < d.level ∧ d.level ≤ 49) : RisingAll level (ofDeclarations ds) := by
  fun_induction ofDeclarations ds generalizing level
  case case1 => trivial
  case case2 d ds hm hs =>
    obtain ⟨hd, hds⟩ := List.forall_mem_cons.mp h
    have hdeep : ∀ e ∈ ds.takeWhile (fun e => decide (d.level < e.level)), d.level < e.level ∧ e.level ≤ 49 :=
      fun e he => ⟨by simpa using List.mem_takeWhile_imp he, (hds e ((List.takeWhile_sublist _).mem he)).right⟩
    exact ⟨⟨hd.left, hd.right, hm hdeep⟩, hs fun e he => hds e ((List.dropWhile_sublist _).mem he)⟩

end Outline

namespace Node

mutual

-- How many groups and arrays lie inside one another in a node, with itself.
def depth : Node → Nat
  | field .. => 0
  | group _ _ members => membersDepth members + 1
  | array _ element => element.depth + 1

def membersDepth : List Node → Nat
  | [] => 0
  | n :: ns => max n.depth (membersDepth ns)

end

theorem depth_le_membersDepth {n : Node} {ns : List Node} (h : n ∈ ns) : n.depth ≤ membersDepth ns := by
  induction ns
  case nil => contradiction
  case cons m ns hi =>
    rcases List.mem_cons.mp h with rfl | h
    · exact le_max_left _ _
    · exact (hi h).trans (le_max_right _ _)

end Node

namespace Layout

open Noting

variable {codec : Codec} {d : Declaration} {notices notices' : List Notice}

theorem depth_occurring_le (d : Declaration) (n : Node) : (occurring d n).depth ≤ n.depth + 1 := by
  unfold occurring
  split
  · exact Nat.le_add_right _ _
  · exact le_refl _

mutual

-- An item adds itself and its array to what its members have.
theorem depth_le_of_place (o : Outline) {level : Nat} {earlier : List Node} {cursor : Nat} {n : Node}
    {notices notices' : List Notice} (h : (place codec earlier cursor o).Yields notices n notices')
    (hr : o.Rising level) : n.depth ≤ 2 * (49 - level) := by
  have ⟨d, members⟩ := o
  have ⟨hl, hd, hr⟩ := hr
  have ⟨m, hn, _, _, hm⟩ := place_declares h
  have ho := hn ▸ depth_occurring_le d m
  rcases hm with ⟨_, _, rfl, _⟩ | ⟨_, _, _, nodes, _, _, _, _, rfl, hs⟩
  case inl =>
    simp only [Node.depth] at ho
    omega
  case inr =>
    have hs : Node.membersDepth nodes ≤ 2 * (49 - d.level) := depth_le_of_placeAll members hs hr
    simp only [Node.depth] at ho
    omega

theorem depth_le_of_placeAll (os : List Outline) {level : Nat} {earlier : List Node} {cursor stop : Nat}
    {nodes : List Node} {notices notices' : List Notice}
    (h : (placeAll codec earlier cursor os).Yields notices (nodes, stop) notices') (hr : Outline.RisingAll level os) :
    Node.membersDepth nodes ≤ 2 * (49 - level) := by
  cases os
  case nil =>
    rw [placeAll] at h
    cases h.pure.left
    exact Nat.zero_le _
  case cons o os =>
    have ⟨n, ns, _, he, hn, hns⟩ := placeAll_cases h
    rw [he, Node.membersDepth]
    exact max_le (depth_le_of_place o hn hr.left) (depth_le_of_placeAll os hns hr.right)

end

-- The record itself is one more group.
theorem depth_root_le {layout : Layout} {statements : List Text}
    (h : (ofStatements statements codec).result = (.ok layout, notices)) : layout.root.depth ≤ 99 := by
  have ⟨declarations, _, hd, hl⟩ := (yields_result h).bind
  have ⟨hread, hm⟩ := hd.lift
  subst hm
  have ⟨_, _, hp⟩ := ofDeclarations_cases hl
  have hr := Outline.risingAll_ofDeclarations (Source.level_of_declarationsFrom (mapError_eq_ok_iff.mp hread))
  exact Nat.succ_le_succ (depth_le_of_placeAll _ hp hr)

end Layout
end Copybook
