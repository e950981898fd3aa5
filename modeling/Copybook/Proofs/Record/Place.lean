import Mathlib
import Copybook.Record.Access

/-!
Places of a record by their paths: a path of keys leads to one place, and every place that an access can come
to is the one that its own path leads to.
-/

namespace Copybook

namespace Node

-- Looking for a name ends with the first node of that name, so the other ones may as well be left out.
theorem find?_firstOfEach (name : Text) (ns : List Node) :
    (firstOfEach ns).find? (·.name == name) = ns.find? (·.name == name) := by
  induction ns
  case nil => rfl
  case cons n ns hi =>
    by_cases h : n.name = name
    case pos => simp [firstOfEach, h]
    case neg =>
      simp only [firstOfEach, List.find?_cons, beq_eq_false_iff_ne.mpr h]
      rw [List.find?_filter, ←hi]
      refine congrArg (List.find? · _) (funext fun m => ?_)
      by_cases hm : m.name = name
      case pos => simpa [hm] using Ne.symm h
      case neg => simp [hm]

-- A node with only namesakes of other nodes before it is found under its own name.
theorem find?_append_cons {n : Node} {before : List Node} (after : List Node)
    (h : ∀ m ∈ before, m.name ≠ n.name) :
    (before ++ n :: after).find? (·.name == n.name) = some n := by
  have hn : before.find? (·.name == n.name) = none :=
    List.find?_eq_none.mpr fun m hm => by simpa using h m hm
  simp [List.find?_append, hn]

theorem find?_of_mem_firstOfEach {n : Node} {ns : List Node} (h : n ∈ firstOfEach ns) :
    ns.find? (·.name == n.name) = some n := by
  induction ns <;> simp [firstOfEach] at h
  case cons m ms hi =>
    cases h
    case inl h => simp [h]
    case inr h => simpa [List.find?_cons, beq_eq_false_iff_ne.mpr (Ne.symm h.right)] using hi h.left

theorem lookup?_group (item : Item) (length : Nat) (members : List Node) (name : Text) :
    (group item length members).lookup? name =
      ((members.filter isAddressable).find? (·.name == name)).or
        ((visibleAll members).find? (·.name == name)) := by
  simp [lookup?, visible, find?_firstOfEach, List.find?_append]

theorem lookup?_of_mem_fields {n : Node} {item : Item} {length : Nat} {members : List Node}
    (h : n ∈ (group item length members).fields) :
    (group item length members).lookup? n.name = some n := by
  have hf : (members.filter isAddressable).find? (·.name == n.name) = some n :=
    find?_of_mem_firstOfEach h
  rw [lookup?_group, hf, Option.some_or]

-- A member is looked up by its name unless a member before it has the same one.
theorem lookup?_member {n : Node} {item : Item} {length : Nat} {before after : List Node}
    (ha : n.isAddressable) (h : ∀ m ∈ before, m.isAddressable → m.name ≠ n.name) :
    (group item length (before ++ n :: after)).lookup? n.name = some n := by
  rw [lookup?_group, List.filter_append, List.filter_cons_of_pos ha, find?_append_cons, Option.some_or]
  intro m hm
  have ⟨hm, ha⟩ := List.mem_filter.mp hm
  exact h m hm ha

end Node

namespace Place

-- What a key that is part of a path leads to.
def step (p : Place) : Key → Option Place
  | .name name => if p.node.isGroup then (p.node.lookup? name).map (p.member name) else none
  | .position k =>
    match p.node with
    | .array count n => if k < count then some (p.element n k) else none
    | _ => none

def follow (p : Place) (path : List Key) : Option Place :=
  path.foldlM step p

-- What keys that are applied one after another lead to.
def locate (p : Place) (keys : List Value) : Except AccessFault Place :=
  keys.foldlM resolve p

theorem locate_cons (p : Place) (key : Value) (keys : List Value) :
    p.locate (key :: keys) = p.resolve key >>= fun q => q.locate keys := by
  simp [locate, List.foldlM_cons]

theorem locate_append (p : Place) (keys more : List Value) :
    p.locate (keys ++ more) = p.locate keys >>= fun q => q.locate more := by
  simp [locate, List.foldlM_append]

-- A place stands where its own path leads from the root of the record.
def StandsIn (p root : Place) : Prop :=
  root.follow p.path = some p

theorem root_stands (layout : Layout) : (root layout).StandsIn (root layout) :=
  rfl

theorem follow_concat (p : Place) (path : List Key) (key : Key) :
    p.follow (path ++ [key]) = (p.follow path).bind (·.step key) := by
  simp [follow, List.foldlM_append]

namespace StandsIn

variable {root p q : Place}

theorem step (key : Key) (h : p.StandsIn root) (hs : p.step key = some q)
    (hp : q.path = p.path ++ [key]) : q.StandsIn root := by
  rw [StandsIn, hp, follow_concat, h, Option.bind_some, hs]

theorem member {n : Node} {name : Text} (h : p.StandsIn root) (hg : p.node.isGroup)
    (hl : p.node.lookup? name = some n) : (p.member name n).StandsIn root :=
  h.step (.name name) (by simp [Place.step, hg, hl]) rfl

theorem element {n : Node} {count k : Nat} (h : p.StandsIn root) (hn : p.node = .array count n)
    (hk : k < count) : (p.element n k).StandsIn root :=
  h.step (.position k) (by simp [Place.step, hn, hk]) rfl

theorem field {n : Node} (h : p.StandsIn root) (hn : n ∈ p.node.fields) :
    (p.member n.name n).StandsIn root := by
  cases hp : p.node <;> rw [hp] at hn
  case group => exact h.member (by simp [hp, Node.isGroup]) (hp ▸ Node.lookup?_of_mem_fields hn)
  all_goals simp [Node.fields, Node.members, Node.firstOfEach] at hn

theorem resolve {key : Value} (h : p.StandsIn root) (hr : p.resolve key = .ok q) : q.StandsIn root := by
  unfold Place.resolve at hr
  split at hr
  case _ item length members hp =>
    split at hr <;> try contradiction
    case _ name =>
      simp only at hr
      split at hr <;> cases hr
      case _ n hn => exact h.member (by simp [hp, Node.isGroup]) (hp ▸ hn)
  case _ count n hp =>
    split at hr <;> try contradiction
    case _ index =>
      split at hr <;> cases hr
      case _ k hk => exact h.element hp (position?_lt hk)
  case _ => contradiction

end StandsIn
end Place
end Copybook
