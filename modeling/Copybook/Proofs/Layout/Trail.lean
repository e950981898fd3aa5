import Copybook.Proofs.Layout.Export

/-!
The way from a group to what can be named in it. A name may be given without the groups that enclose what it means,
whether these can be named or not; the value of the group only shows what is in groups that are fields of the one
around them.
-/

namespace Copybook

namespace Node

mutual

-- What can be named in a node, with the groups that enclose it there from the outermost to the innermost, in the order
-- in which a name is looked for.
def trails : Node → List (List Node × Node)
  | group _ _ members => (members.filter isAddressable).map ([], ·) ++ trailsAll members
  | _ => []

def trailsAll : List Node → List (List Node × Node)
  | [] => []
  | n :: ns => n.trails.map (Prod.map (n :: ·) id) ++ trailsAll ns

end

-- What a name means in a node, and the groups that enclose it there.
def trail? (n : Node) (name : Text) : Option (List Node × Node) :=
  n.trails.find? (·.2.name == name)

-- Each of some groups, from the outermost to the innermost, is a field of the one around it.
def Lists (n : Node) : List Node → Prop
  | [] => True
  | g :: around => g ∈ n.fields ∧ g.Lists around

variable {n m g a : Node} {name : Text} {around : List Node} {item : Item} {length : Nat} {members : List Node}

theorem find?_trailsAll (name : Text) (ns : List Node) : (trailsAll ns).find? (·.2.name == name) =
    ns.findSome? fun n => (n.trail? name).map (Prod.map (n :: ·) id) := by
  induction ns
  case nil => rfl
  case cons n ns hi =>
    rw [trailsAll, List.find?_append, List.find?_map, List.findSome?_cons, hi]
    change ((n.trail? name).map _).or _ = _
    cases n.trail? name <;> rfl

theorem trail?_group (item : Item) (length : Nat) (members : List Node) (name : Text) :
    (group item length members).trail? name =
      (((members.filter isAddressable).find? (·.name == name)).map ([], ·)).or
        (members.findSome? fun n => (n.trail? name).map (Prod.map (n :: ·) id)) := by
  rw [trail?, trails, List.find?_append, find?_trailsAll, List.find?_map]
  rfl

-- A name means the same whether the way to it is told or not.
theorem lookup?_eq (n : Node) (name : Text) : n.lookup? name = (n.trail? name).map Prod.snd := by
  induction n using induct
  case field => rfl
  case array => rfl
  case group item length members hi =>
    have hv : (visibleAll members).find? (·.name == name) =
        (members.findSome? fun n => (n.trail? name).map (Prod.map (n :: ·) id)).map Prod.snd := by
      induction members
      case nil => rfl
      case cons n ns hns =>
        have ⟨hn, hns'⟩ := List.forall_mem_cons.mp hi
        rw [visibleAll, List.find?_append, List.findSome?_cons, hns hns']
        change (n.lookup? name).or _ = _
        rw [hn]
        cases n.trail? name <;> rfl
    rw [lookup?_group, trail?_group, hv]
    cases (members.filter isAddressable).find? (·.name == name) <;> rfl

-- A name means a member, or else what it means in the first member in which it means something.
theorem trail?_cases (h : n.trail? name = some (around, m)) :
    (around = [] ∧ (n.members.filter isAddressable).find? (·.name == name) = some m) ∨
      ∃ before g after inner, n.members = before ++ g :: after ∧ around = g :: inner ∧
        g.trail? name = some (inner, m) ∧ ∀ x ∈ before, x.trail? name = none := by
  cases n
  case field => contradiction
  case array => contradiction
  case group item length members =>
    rw [trail?_group] at h
    cases hf : (members.filter isAddressable).find? (·.name == name) <;> rw [hf] at h
    case some x =>
      cases h
      exact .inl ⟨rfl, hf⟩
    case none =>
      have ⟨before, g, after, hm, hg, hb⟩ := List.findSome?_eq_some_iff.mp h
      have ⟨⟨inner, m'⟩, ht, he⟩ := Option.map_eq_some_iff.mp hg
      cases he
      exact .inr ⟨before, g, after, inner, hm, rfl, ht, fun x hx => Option.map_eq_none_iff.mp (hb x hx)⟩

theorem trail?_cons (h : n.trail? name = some (g :: around, m)) :
    ∃ before after, n.members = before ++ g :: after ∧ g.trail? name = some (around, m) ∧
      ∀ x ∈ before, x.trail? name = none := by
  rcases trail?_cases h with ⟨he, _⟩ | ⟨before, _, after, _, hm, he, ht, hb⟩ <;> cases he
  exact ⟨before, after, hm, ht, hb⟩

theorem trail?_nil (h : n.trail? name = some ([], m)) : m ∈ n.fields ∧ m.name = name := by
  refine ⟨?_, by simpa using List.find?_some h⟩
  rcases trail?_cases h with ⟨_, hf⟩ | ⟨_, _, _, _, _, he, _⟩
  case inl =>
    rw [←find?_firstOfEach] at hf
    exact List.mem_of_find?_eq_some hf
  case inr => cases he

-- The keys of what is enclosed by some groups.
def way (around : List Node) (name : Text) : List Key :=
  (around.map (·.name) ++ [name]).map .name

variable {shift : Nat} {path : List Key} {s : Spot}

-- A field that is enclosed by such groups only is part of the value of the node.
theorem mem_exports_of_trail? {type : FieldType} (h : n.trail? name = some (around, field item type))
    (hl : n.Lists around) : ⟨item, type, shift, path ++ way around name⟩ ∈ n.exports shift path := by
  have member {n g : Node} {path : List Key} {s : Spot} (hg : g ∈ n.fields)
      (hs : s ∈ g.exports shift (path ++ [.name g.name])) : s ∈ n.exports shift path := by
    cases n
    case group => exact exports_group .. ▸ List.mem_flatMap.mpr ⟨g, hg, hs⟩
    all_goals contradiction
  induction around generalizing n path
  case nil =>
    have ⟨hm, hn⟩ := trail?_nil h
    refine member hm ?_
    rw [←hn]
    exact List.mem_singleton.mpr rfl
  case cons g around hi =>
    have ⟨_, _, _, ht, _⟩ := trail?_cons h
    have : _ ∈ g.exports shift (path ++ [.name g.name]) := hi ht hl.right
    refine member hl.left ?_
    simpa [way] using this

-- A part of the value that is found by names is in a field of the node.
theorem field_of_mem_exports {names : List Text} (hs : s ∈ n.exports shift path)
    (hp : s.path = path ++ (name :: names).map .name) :
    ∃ f ∈ n.fields, f.name = name ∧ s ∈ f.exports shift (path ++ [.name name]) := by
  cases n
  case field =>
    cases List.mem_singleton.mp hs
    simp at hp
  case array count element =>
    have ⟨k, _, hs⟩ := List.mem_flatMap.mp hs
    have ⟨rest, hr⟩ := prefix_of_mem_exports hs
    simp [hp] at hr
  case group item length members =>
    rw [exports_group] at hs
    have ⟨f, hf, hs⟩ := List.mem_flatMap.mp hs
    have ⟨rest, hr⟩ := prefix_of_mem_exports hs
    have hn : f.name = name := by
      simp [hp] at hr
      exact hr.left
    exact ⟨f, hf, hn, hn ▸ hs⟩

theorem trail?_isSome_of_member {c : Node} (hc : c ∈ n.members) (h : (c.trail? name).isSome) :
    (n.trail? name).isSome := by
  cases n
  case group item length members =>
    rw [trail?_group, Option.isSome_or, Bool.or_eq_true, List.findSome?_isSome_iff]
    exact .inr ⟨c, hc, by simpa using h⟩
  all_goals contradiction

theorem trail?_isSome_of_mem_exports {names : List Text} (hs : s ∈ n.exports shift path)
    (hp : s.path = path ++ (names ++ [name]).map .name) : (n.trail? name).isSome := by
  induction names generalizing n path
  case nil =>
    have ⟨f, hf, hn, _⟩ := field_of_mem_exports hs hp
    cases n
    case group =>
      have hl := lookup?_of_mem_fields hf
      rw [hn, lookup?_eq] at hl
      exact Option.isSome_map.symm.trans (congrArg Option.isSome hl)
    all_goals contradiction
  case cons first names hi =>
    have ⟨f, hf, _, hs⟩ := field_of_mem_exports hs hp
    refine trail?_isSome_of_member ((fields_sublist n).mem hf) (hi hs ?_)
    simp [hp]

-- The first group on the way is a field if there is a field of its name in which the name means something.
theorem eq_of_trail?_cons {f : Node} (h : n.trail? name = some (g :: around, m)) (hf : f ∈ n.fields)
    (hn : f.name = g.name) (hs : (f.trail? name).isSome) : f = g := by
  have ⟨before, after, hm, _, hb⟩ := trail?_cons h
  have ha : g.isAddressable := by
    have := (List.mem_filter.mp (mem_of_mem_firstOfEach hf)).right
    rwa [isAddressable, hn] at this
  have hfirst := find?_of_mem_firstOfEach hf
  rw [hm, List.filter_append, List.filter_cons_of_pos ha, List.find?_append] at hfirst
  cases hx : (before.filter isAddressable).find? (·.name == f.name) <;> rw [hx] at hfirst
  case some x =>
    cases hfirst
    have hx := (List.mem_filter.mp (List.mem_of_find?_eq_some hx)).left
    rw [hb f hx] at hs
    contradiction
  case none =>
    simp only [List.find?_cons, hn, beq_self_eq_true] at hfirst
    exact (Option.some.inj hfirst).symm

-- What is part of the value of a node is enclosed by such groups only.
theorem lists_of_mem_exports (h : n.trail? name = some (around, m)) (hs : s ∈ n.exports shift path)
    (hp : s.path = path ++ way around name) : n.Lists around := by
  induction around generalizing n path
  case nil => trivial
  case cons g around hi =>
    have ⟨f, hf, hn, hs⟩ := field_of_mem_exports hs hp
    have hp : s.path = path ++ [.name g.name] ++ way around name := by simp [hp, way]
    have he := eq_of_trail?_cons h hf hn (trail?_isSome_of_mem_exports hs hp)
    have ⟨_, _, _, ht, _⟩ := trail?_cons h
    subst he
    exact ⟨hf, hi ht hs hp⟩

end Node
end Copybook
