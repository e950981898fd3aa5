import Copybook.Proofs.Layout.Containment
import Copybook.Proofs.Layout.Nesting
import Copybook.Proofs.Source.Declaration

/-!
The fields that the value of a record is made of: those that can be addressed through groups that can be, each name
of a group once. Their paths lead back to them, and none of them lies over another one unless something is redefined.
-/

namespace Copybook

-- The key as it is given to an accessor.
def Key.value : Key → Value
  | .name n => .text n
  | .position k => .int k

namespace Node

-- What is so of every node if it is so of those whose parts it is so of.
@[elab_as_elim]
theorem induct {p : Node → Prop} (field : ∀ item type, p (.field item type))
    (group : ∀ item length members, (∀ m ∈ members, p m) → p (.group item length members))
    (array : ∀ count element, p element → p (.array count element)) : ∀ n, p n
  | .field item type => field item type
  | .group item length members => group item length members fun m hm =>
    have := List.sizeOf_lt_of_mem hm
    induct field group array m
  | .array count element => array count element (induct field group array element)

section Fields

theorem firstOfEach_sublist (ns : List Node) : (firstOfEach ns).Sublist ns := by
  induction ns
  case nil => exact .refl _
  case cons n ns hi => exact (List.filter_sublist.trans hi).cons_cons n

theorem fields_sublist (n : Node) : n.fields.Sublist n.members :=
  (firstOfEach_sublist _).trans List.filter_sublist

theorem firstOfEach_pairwise (ns : List Node) : (firstOfEach ns).Pairwise (·.name ≠ ·.name) := by
  induction ns
  case nil => exact .nil
  case cons n ns hi =>
    refine List.pairwise_cons.mpr ⟨fun m hm he => ?_, hi.sublist List.filter_sublist⟩
    simp [he] at hm

-- Each name of a field is that of one field.
theorem fields_pairwise (n : Node) : n.fields.Pairwise (·.name ≠ ·.name) :=
  firstOfEach_pairwise _

-- The nodes that can be addressed, each name once, except for those with names in `seen`.
def unseen (seen : List Text) (ns : List Node) : List Node :=
  (firstOfEach (ns.filter isAddressable)).filter fun n => !seen.contains n.name

theorem unseen_cons (seen : List Text) (n : Node) (ns : List Node) : unseen seen (n :: ns) =
    if !n.isAddressable || seen.contains n.name then unseen seen ns else n :: unseen (n.name :: seen) ns := by
  by_cases ha : n.isAddressable
  case neg => simp [unseen, ha]
  case pos =>
    simp only [unseen, List.filter_cons_of_pos ha, firstOfEach, List.filter_cons, List.filter_filter, ha]
    by_cases hs : n.name ∈ seen
    case pos =>
      simp only [List.elem_eq_mem, hs]
      refine List.filter_congr fun m _ => ?_
      by_cases hm : m.name ∈ seen
      · simp [hm]
      · simp [hm, show m.name ≠ n.name from fun he => hm (he ▸ hs)]
    case neg =>
      simp only [List.elem_eq_mem, hs]
      refine congrArg (List.cons n) <| List.filter_congr fun m _ => ?_
      simp [Bool.and_comm, bne, beq_eq_decide]

theorem unseen_nil (ns : List Node) : unseen [] ns = firstOfEach (ns.filter isAddressable) := by
  simp [unseen]

end Fields

mutual

-- The fields whose values make up the value of a node, in the order in which they stand there.
def exports (shift : Nat) (path : List Key) : Node → List Spot
  | field item type => [⟨item, type, shift, path⟩]
  | group _ _ members => exportsAll shift path [] members
  | array count element => (List.range count).flatMap fun k =>
    element.exports (shift + k * element.length) (path ++ [.position k])

def exportsAll (shift : Nat) (path : List Key) (seen : List Text) : List Node → List Spot
  | [] => []
  | n :: ns =>
    if !n.isAddressable || seen.contains n.name then exportsAll shift path seen ns
    else n.exports shift (path ++ [.name n.name]) ++ exportsAll shift path (n.name :: seen) ns

end

theorem exportsAll_eq (shift : Nat) (path : List Key) (seen : List Text) (ns : List Node) :
    exportsAll shift path seen ns = (unseen seen ns).flatMap fun n => n.exports shift (path ++ [.name n.name]) := by
  induction ns generalizing seen
  case nil => rfl
  case cons n ns hi =>
    rw [exportsAll, unseen_cons]
    split
    · exact hi seen
    · rw [hi, List.flatMap_cons]

theorem exports_group (shift : Nat) (path : List Key) (item : Item) (length : Nat) (members : List Node) :
    (group item length members).exports shift path =
      (group item length members).fields.flatMap fun n => n.exports shift (path ++ [.name n.name]) := by
  rw [exports, exportsAll_eq, unseen_nil]
  rfl

variable {shift : Nat} {path : List Key} {s : Spot}

-- The path of a field begins with that of the node.
theorem prefix_of_mem_exports {n : Node} (h : s ∈ n.exports shift path) : path <+: s.path := by
  induction n using induct generalizing shift path
  case field item type =>
    cases List.mem_singleton.mp h
    exact List.prefix_refl _
  case group item length members hi =>
    rw [exports_group] at h
    have ⟨m, hm, h⟩ := List.mem_flatMap.mp h
    exact (List.prefix_append ..).trans <| hi m ((fields_sublist _).mem hm) h
  case array count element hi =>
    have ⟨k, _, h⟩ := List.mem_flatMap.mp h
    exact (List.prefix_append ..).trans <| hi h

theorem path_ne_of_key_ne {a b : Key} {s t : Spot} (h : a ≠ b) (hs : path ++ [a] <+: s.path)
    (ht : path ++ [b] <+: t.path) : s.path ≠ t.path := by
  intro he
  have := (List.prefix_of_prefix_length_le hs (he ▸ ht) (by simp)).eq_of_length (by simp)
  simp [h] at this

-- No two fields have the same path.
theorem exports_pairwise (n : Node) (shift : Nat) (path : List Key) :
    (n.exports shift path).Pairwise (·.path ≠ ·.path) := by
  induction n using induct generalizing shift path
  case field => exact List.pairwise_singleton ..
  case group item length members hi =>
    rw [exports_group]
    refine List.pairwise_flatMap.mpr ⟨fun m hm => hi m ((fields_sublist _).mem hm) .., ?_⟩
    refine (fields_pairwise _).imp fun hne s hs t ht => ?_
    exact path_ne_of_key_ne (by simpa using hne) (prefix_of_mem_exports hs) (prefix_of_mem_exports ht)
  case array count element hi =>
    refine List.pairwise_flatMap.mpr ⟨fun k _ => hi .., ?_⟩
    refine (List.nodup_range (n := count)).imp fun hne s hs t ht => ?_
    exact path_ne_of_key_ne (by simpa using hne) (prefix_of_mem_exports hs) (prefix_of_mem_exports ht)

theorem tilesAll_eq (shift : Nat) (ns : List Node) : tilesAll shift ns = ns.flatMap (·.tiles shift) := by
  induction ns
  case nil => rfl
  case cons n ns hi => rw [tilesAll, hi, List.flatMap_cons]

-- Where nothing is redefined, the fields are among those that tile the node.
theorem exports_sublist_tiles (n : Node) (hn : ∀ m, n.Within m → m.item.redefines = none) (shift : Nat)
    (path : List Key) :
    ((n.exports shift path).map fun s => (field s.item s.type, s.shift)).Sublist (n.tiles shift) := by
  induction n using induct generalizing shift path
  case field item type => simp [exports, tiles, show item.redefines = none from hn _ .root]
  case group item length members hi =>
    rw [exports_group, tiles, show item.redefines = none from hn _ .root, tilesAll_eq, List.map_flatMap]
    have hm : ∀ m ∈ members, ∀ x, m.Within x → x.item.redefines = none :=
      fun m hm x hx => hn x <| (Within.root.member hm).trans hx
    have hs := fields_sublist (group item length members)
    exact (List.Sublist.flatMap_right _ fun m hf => hi m (hs.mem hf) (hm m (hs.mem hf)) ..).trans (hs.flatMap _)
  case array count element hi =>
    rw [exports, tiles, List.map_flatMap]
    exact List.Sublist.flatMap_right _ fun k _ => hi (fun x hx => hn x <| Within.root.element.trans hx) ..

section Spelling

theorem visibleAll_eq (ns : List Node) : visibleAll ns = ns.flatMap visible := by
  induction ns
  case nil => rfl
  case cons n ns hi => rw [visibleAll, hi, List.flatMap_cons]

-- What can be named within a node is a member of a group in it.
theorem member_of_visible {n m : Node} (h : m ∈ n.visible) :
    ∃ item length members, n.Within (group item length members) ∧ m ∈ members := by
  induction n using induct
  case field => simp [visible] at h
  case array => simp [visible] at h
  case group item length members hi =>
    rw [visible, visibleAll_eq] at h
    cases List.mem_append.mp (mem_of_mem_firstOfEach h)
    case inl h => exact ⟨item, length, members, .root, (List.mem_filter.mp h).left⟩
    case inr h =>
      have ⟨c, hc, h⟩ := List.mem_flatMap.mp h
      have ⟨_, _, _, hw, hm⟩ := hi c hc h
      exact ⟨_, _, _, (Within.root.member hc).trans hw, hm⟩

-- Every member of a group has its name in the one spelling that names are looked up in.
def IsSpelled (root : Node) : Prop :=
  ∀ item length members m, root.Within (group item length members) → m ∈ members → normalizeName m.name = m.name

theorem IsSpelled.lookup? {root n m : Node} {name : Text} (h : root.IsSpelled) (hn : root.Within n)
    (hl : n.lookup? name = some m) : normalizeName name = name := by
  have ⟨_, _, _, hw, hm⟩ := member_of_visible (List.mem_of_find?_eq_some hl)
  have he : m.name = name := by simpa using List.find?_some hl
  exact he ▸ h _ _ _ _ (hn.trans hw) hm

end Spelling

end Node

namespace Place

variable {root p q : Place} {s : Spot}

-- The path of a field leads to it.
theorem stands_of_mem_exports {n : Node} {shift : Nat} {path : List Key} (h : StandsIn ⟨n, shift, path⟩ root)
    (hs : s ∈ n.exports shift path) : ∃ q : Place, q.StandsIn root ∧ q.spot? = some s := by
  induction n using Node.induct generalizing shift path
  case field item type =>
    cases List.mem_singleton.mp hs
    exact ⟨_, h, rfl⟩
  case group item length members hi =>
    rw [Node.exports_group] at hs
    have ⟨m, hm, hs⟩ := List.mem_flatMap.mp hs
    exact hi m ((Node.fields_sublist _).mem hm) (h.field hm) hs
  case array count element hi =>
    have ⟨k, hk, hs⟩ := List.mem_flatMap.mp hs
    exact hi (h.element rfl (List.mem_range.mp hk)) hs

theorem position?_of_lt {count k : Nat} (h : k < count) : position? count k = some k := by
  simp only [position?]
  rw [if_neg (by omega : ¬(k : Int) < 0), if_pos (by omega), Int.toNat_natCast]

theorem resolve_of_step {root : Node} {key : Key} (hr : root.IsSpelled) (hp : root.Within p.node)
    (h : p.step key = some q) : p.resolve key.value = .ok q := by
  obtain ⟨node, shift, path⟩ := p
  cases key
  case name name =>
    cases node <;> simp only [step, Node.isGroup] at h <;> try contradiction
    obtain ⟨m, hm, hq⟩ := Option.map_eq_some_iff.mp h
    simp only [Key.value, resolve, hr.lookup? hp hm, hm, hq]
  case position k =>
    cases node <;> simp only [step] at h <;> try contradiction
    split at h
    case isFalse => contradiction
    case isTrue hk =>
      simp only [Key.value, resolve, position?_of_lt hk]
      exact congrArg _ (Option.some.inj h)

-- The keys of a path, given to one accessor after another, lead where the path leads.
theorem locate_of_follow {root : Node} {path : List Key} (hr : root.IsSpelled) (hp : p.OccursIn root)
    (h : p.follow path = some q) : p.locate (path.map Key.value) = .ok q := by
  induction path generalizing p
  case nil => exact congrArg _ (Option.some.inj h)
  case cons key path hi =>
    have ⟨p', hk, h⟩ := Option.bind_eq_some_iff.mp h
    have hk := resolve_of_step hr hp.within hk
    rw [List.map_cons, locate_cons, hk]
    exact hi (hp.resolve hk) h

end Place

namespace Source

theorem normalizeName_of_declare {line name : Text} {level : Nat} {c : Clauses}
    (h : declare line = .ok (level, name, c)) : normalizeName name = name := by
  unfold declare at h
  split at h
  case _ => contradiction
  case _ =>
    have ⟨c', _, h⟩ := bind_eq_ok_iff.mp h
    cases h
    exact normalizeName_normalizeName _

end Source

namespace Layout

variable {layout : Layout} {codec : Codec} {notices : List Notice} {statements : List Text}

-- The items of a copybook have their names in one spelling.
theorem isSpelled_of_ofStatements (h : (ofStatements statements codec).result = (.ok layout, notices)) :
    layout.root.IsSpelled := by
  have ⟨declarations, _, hd, hl⟩ := (Noting.yields_result h).bind
  have ⟨hread, hm⟩ := hd.lift
  subst hm
  have ⟨_, _, hp⟩ := ofDeclarations_cases hl
  intro item length members m hg hm
  -- A part of the record that is not the record itself is a part of one of its members.
  have ⟨n, hn, hnm⟩ : ∃ n ∈ layout.members, n.Within m := by
    rcases hg.of_group with he | ⟨n, hn, hg⟩
    · cases he
      exact ⟨m, hm, .root⟩
    · exact ⟨n, hn, hg.member hm⟩
  have ⟨d, hd, hm, _⟩ := placeAll_within _ hp hn hnm
  rw [Outline.flattenAll_ofDeclarations] at hd
  have ⟨_, _, _, _, _, _, hline, he⟩ := Source.declarationsFrom_mem (mapError_eq_ok_iff.mp hread) hd
  rw [hm.name, he]
  exact Source.normalizeName_of_declare hline

end Layout
end Copybook
