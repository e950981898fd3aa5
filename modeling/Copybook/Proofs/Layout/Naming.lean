import Copybook.Proofs.Layout.Trail

/-!
What a name means in a group. It may be that of several nodes that the group shows, each at a way of its own through the
plain groups in it, and means the first of them: a member comes before what the groups among the members hold, and these
come one after another.
-/

namespace Copybook

namespace Node

-- The positions of the groups that lead from a node to one that it shows, and the position of that one. Arrays have no
-- members, so no way leads through them.
inductive Reaches : Node → List Nat → Node → Prop
  | member {n m : Node} {i : Nat} (ha : m.isAddressable) (h : n.members[i]? = some m) : Reaches n [i] m
  | through {n g m : Node} {i : Nat} {way : List Nat} (h : n.members[i]? = some g) (hr : Reaches g way m) :
    Reaches n (i :: way) m

-- The order of the ways.
inductive Before : List Nat → List Nat → Prop
  | members {i j : Nat} (h : i < j) : Before [i] [j]
  | held {i j : Nat} {way : List Nat} (h : way ≠ []) : Before [i] (j :: way)
  | across {i j : Nat} {way way' : List Nat} (hw : way ≠ []) (hw' : way' ≠ []) (h : i < j) :
    Before (i :: way) (j :: way')
  | within {i : Nat} {way way' : List Nat} (h : Before way way') : Before (i :: way) (i :: way')

-- The way leads to the first node of that name.
structure Means (n : Node) (name : Text) (way : List Nat) (m : Node) : Prop where
  reaches : n.Reaches way m
  named : m.name = name
  first : ∀ way' m', n.Reaches way' m' → m'.name = name → way' = way ∨ Before way way'

variable {n m m' g : Node} {name : Text} {way way' : List Nat} {item : Item} {length : Nat} {members : List Node}

theorem Before.ne_nil (h : Before way way') : way ≠ [] ∧ way' ≠ [] := by
  cases h <;> simp

theorem Before.asymm (h : Before way way') : ¬Before way' way := by
  induction h with
  | members h =>
    intro h'
    cases h' with
    | members h' => exact Nat.lt_asymm h h'
    | held h' => exact h' rfl
    | across hw => exact hw rfl
    | within h' => exact h'.ne_nil.left rfl
  | held h =>
    intro h'
    cases h' with
    | members => exact h rfl
    | held h' => exact h' rfl
    | across _ hw' => exact hw' rfl
    | within h' => exact h'.ne_nil.right rfl
  | across hw hw' h =>
    intro h'
    cases h' with
    | members => exact hw rfl
    | held => exact hw' rfl
    | across _ _ h' => exact Nat.lt_asymm h h'
    | within => exact Nat.lt_irrefl _ h
  | within h hi =>
    intro h'
    cases h' with
    | members => exact h.ne_nil.left rfl
    | held => exact h.ne_nil.right rfl
    | across _ _ h' => exact Nat.lt_irrefl _ h'
    | within h' => exact hi h'

namespace Reaches

theorem ne_nil (h : n.Reaches way m) : way ≠ [] := by
  cases h <;> exact List.cons_ne_nil _ _

-- A way leads to one node.
theorem unique (h : n.Reaches way m) (h' : n.Reaches way m') : m = m' := by
  induction h
  case member h =>
    cases h'
    case member h' => exact Option.some.inj (h.symm.trans h')
    case through hr => exact absurd rfl hr.ne_nil
  case through h hr hi =>
    cases h'
    case member => exact absurd rfl hr.ne_nil
    case through h' hr' =>
      cases Option.some.inj (h.symm.trans h')
      exact hi hr'

end Reaches

-- A name means one node, at one way.
theorem Means.unique (h : n.Means name way m) (h' : n.Means name way' m') : way = way' ∧ m = m' := by
  have hw : way = way' := by
    rcases h.first way' m' h'.reaches h'.named with rfl | hb
    · rfl
    rcases h'.first way m h.reaches h.named with rfl | hb'
    · rfl
    exact absurd hb' hb.asymm
  subst hw
  exact ⟨rfl, h.reaches.unique h'.reaches⟩

theorem lookup?_members (item : Item) (length : Nat) (members : List Node) (name : Text) :
    (group item length members).lookup? name =
      (members.find? fun m => m.isAddressable && m.name == name).or (members.findSome? (·.lookup? name)) := by
  rw [lookup?_eq, trail?_group, Option.map_or, List.find?_filter, List.map_findSome?]
  have hm : (Option.map Prod.snd ∘ fun n : Node => (n.trail? name).map (Prod.map (n :: ·) id)) =
      fun n => n.lookup? name := by
    funext n
    rw [lookup?_eq, Function.comp, Option.map_map]
    rfl
  rw [hm, Option.map_map]
  simp [beq_eq_decide]

theorem isSome_lookup?_of_reaches (h : n.Reaches way m) : (n.lookup? m.name).isSome := by
  induction h
  case member n m i ha h =>
    cases n
    case field => contradiction
    case array => contradiction
    rw [lookup?_members, Option.isSome_or, Bool.or_eq_true, List.find?_isSome]
    exact .inl ⟨m, List.mem_of_getElem? h, by simpa using ha⟩
  case through n g m i way h hr hi =>
    cases n
    case field => contradiction
    case array => contradiction
    rw [lookup?_members, Option.isSome_or, Bool.or_eq_true, List.findSome?_isSome_iff]
    exact .inr ⟨g, List.mem_of_getElem? h, hi⟩

theorem not_reaches_of_lookup? (h : n.lookup? name = none) (hr : n.Reaches way m) : m.name ≠ name := by
  rintro rfl
  have hs := isSome_lookup?_of_reaches hr
  rw [h] at hs
  contradiction

-- The first member of a name is what the name means, before anything that the groups among the members hold.
theorem Means.member (h : members.find? (fun m => m.isAddressable && m.name == name) = some m) :
    ∃ i, (group item length members).Means name [i] m := by
  obtain ⟨hp, i, hlt, rfl, hb⟩ := List.find?_eq_some_iff_getElem.mp h
  obtain ⟨ha, hn⟩ := Bool.and_eq_true_iff.mp hp
  refine ⟨i, .member ha (List.getElem?_eq_getElem hlt), beq_iff_eq.mp hn, fun way' m' hr he => ?_⟩
  cases hr
  case member j ha' hj =>
    obtain ⟨hjlt, rfl⟩ := List.getElem?_eq_some_iff.mp hj
    rcases Nat.lt_trichotomy j i with hji | rfl | hij
    · have hb := (Bool.not_eq_true' _).mp (hb j hji)
      exact absurd (hb.symm.trans (Bool.and_eq_true_iff.mpr ⟨ha', beq_iff_eq.mpr he⟩)) Bool.false_ne_true
    · exact .inl rfl
    · exact .inr (.members hij)
  case through hr => exact .inr (.held hr.ne_nil)

-- A name that no member has means what it means in the first group among them in which it means something.
theorem Means.through {before after : List Node} (hm : g.Means name way m) (hb : ∀ x ∈ before, x.lookup? name = none)
    (hf : (before ++ g :: after).find? (fun m => m.isAddressable && m.name == name) = none) :
    (group item length (before ++ g :: after)).Means name (before.length :: way) m := by
  have hat : (before ++ g :: after)[before.length]? = some g := by simp
  refine ⟨.through hat hm.reaches, hm.named, fun way' m' hr he => ?_⟩
  cases hr
  case member j ha hj =>
    have hn := List.find?_eq_none.mp hf m' (List.mem_of_getElem? hj)
    simp [ha, he] at hn
  case through g' j way' hj hr =>
    rcases Nat.lt_trichotomy j before.length with hlt | rfl | hlt
    · have hm' : g' ∈ before := by
        change (before ++ g :: after)[j]? = some g' at hj
        rw [List.getElem?_append_left hlt] at hj
        exact List.mem_of_getElem? hj
      exact absurd he (not_reaches_of_lookup? (hb g' hm') hr)
    · cases Option.some.inj (hat.symm.trans hj)
      rcases hm.first way' m' hr he with rfl | hbefore
      · exact .inl rfl
      · exact .inr (.within hbefore)
    · exact .inr (.across hm.reaches.ne_nil hr.ne_nil hlt)

theorem exists_means_of_lookup? (h : n.lookup? name = some m) : ∃ way, n.Means name way m := by
  induction n using induct generalizing m
  case field => contradiction
  case array => contradiction
  case group item length members hi =>
    rw [lookup?_members] at h
    cases hf : members.find? fun m => m.isAddressable && m.name == name <;> rw [hf] at h
    case some m' =>
      cases h
      obtain ⟨i, hm⟩ := Means.member hf
      exact ⟨[i], hm⟩
    case none =>
      obtain ⟨before, g, after, rfl, hg, hb⟩ := List.findSome?_eq_some_iff.mp h
      obtain ⟨way, hm⟩ := hi g (by simp) hg
      exact ⟨before.length :: way, hm.through hb hf⟩

-- A name is looked up as what it means.
theorem lookup?_eq_some_iff : n.lookup? name = some m ↔ ∃ way, n.Means name way m := by
  constructor
  case mp => exact exists_means_of_lookup?
  case mpr =>
    rintro ⟨way, hm⟩
    have hs := isSome_lookup?_of_reaches hm.reaches
    rw [hm.named] at hs
    obtain ⟨m', hl⟩ := Option.isSome_iff_exists.mp hs
    obtain ⟨way', hm'⟩ := exists_means_of_lookup? hl
    rw [hl, (hm.unique hm').right]

theorem lookup?_eq_none_iff : n.lookup? name = none ↔ ∀ way m, n.Reaches way m → m.name ≠ name := by
  constructor
  case mp => exact fun h way m hr => not_reaches_of_lookup? h hr
  case mpr =>
    intro h
    refine Option.eq_none_iff_forall_ne_some.mpr fun m hl => ?_
    obtain ⟨way, hm⟩ := exists_means_of_lookup? hl
    exact h way m hm.reaches hm.named

end Node

namespace Place

variable {item : Item} {length : Nat} {members : List Node} {shift : Nat} {path : List Key} {name : Text} {n : Node}

theorem resolve_of_lookup? (h : (Node.group item length members).lookup? (normalizeName name) = some n) :
    resolve ⟨.group item length members, shift, path⟩ (.text name) =
      .ok (member ⟨.group item length members, shift, path⟩ (normalizeName name) n) := by
  simp only [resolve, h]

theorem resolve_of_lookup?_eq_none (h : (Node.group item length members).lookup? (normalizeName name) = none) :
    resolve ⟨.group item length members, shift, path⟩ (.text name) = .error (.unknownName name item.name) := by
  simp only [resolve, h]

-- In a group, a name is that of the first node it means, or unknown if no node that the group shows has it.
theorem resolve_name (item : Item) (length : Nat) (members : List Node) (shift : Nat) (path : List Key) (name : Text) :
    let p : Place := ⟨.group item length members, shift, path⟩
    (∀ q, p.resolve (.text name) = .ok q ↔
      ∃ way m, p.node.Means (normalizeName name) way m ∧ q = p.member (normalizeName name) m) ∧
    ∀ e, p.resolve (.text name) = .error e ↔
      e = .unknownName name item.name ∧ ∀ way m, p.node.Reaches way m → m.name ≠ normalizeName name := by
  intro p
  cases hl : p.node.lookup? (normalizeName name)
  case some n =>
    obtain ⟨way, hm⟩ := Node.lookup?_eq_some_iff.mp hl
    rw [resolve_of_lookup? hl]
    constructor
    case left =>
      intro q
      constructor
      · intro h
        exact ⟨way, n, hm, (Except.ok.inj h).symm⟩
      · rintro ⟨way', m, hm', rfl⟩
        rw [(hm.unique hm').right]
    case right =>
      intro e
      constructor
      · intro h
        contradiction
      · rintro ⟨-, h⟩
        exact absurd hm.named (h way n hm.reaches)
  case none =>
    have hr := Node.lookup?_eq_none_iff.mp hl
    rw [resolve_of_lookup?_eq_none hl]
    constructor
    case left =>
      intro q
      constructor
      · intro h
        contradiction
      · rintro ⟨way, m, hm, -⟩
        exact absurd hm.named (hr way m hm.reaches)
    case right =>
      intro e
      constructor
      · intro h
        exact ⟨(Except.error.inj h).symm, hr⟩
      · rintro ⟨rfl, -⟩
        rfl

end Place

namespace Layout

-- Every name that means something in a group and is not the name of a member is that of one node that the group shows.
def IsUnambiguous (layout : Layout) : Prop :=
  ∀ g name, layout.root.Within g → (g.lookup? name).isSome → (∀ m ∈ g.members, m.isAddressable → m.name ≠ name) →
    ∃! way, ∃ m, g.Reaches way m ∧ m.name = name

-- The layout of `01 R. 05 G. 10 A PIC X. 05 H. 10 A PIC X.`
def namesakes : Layout where
  length := 2
  members := [.group ⟨"R".toList, 0, none, none, none⟩ 2 [
    .group ⟨"G".toList, 0, none, none, none⟩ 1 [.field ⟨"A".toList, 0, none, none, none⟩ (.text 1 false)],
    .group ⟨"H".toList, 1, none, none, none⟩ 1 [.field ⟨"A".toList, 1, none, none, none⟩ (.text 1 false)]]]
  declarations := [
    ⟨1, "R".toList, none, none, none, none, none, none, none, "01 R".toList⟩,
    ⟨5, "G".toList, none, none, none, none, some "R".toList, none, none, "05 G".toList⟩,
    ⟨10, "A".toList, some "X".toList, none, none, none, some "G".toList, none, none, "10 A PIC X".toList⟩,
    ⟨5, "H".toList, none, none, none, none, some "R".toList, none, none, "05 H".toList⟩,
    ⟨10, "A".toList, some "X".toList, none, none, none, some "H".toList, none, none, "10 A PIC X".toList⟩]
  codec := {}

-- Two fields of one name are found under that name, the first one for both.
theorem not_every_name_unambiguous : namesakes.IsCompiled ∧ ¬namesakes.IsUnambiguous := by
  refine ⟨⟨[], by with_unfolding_all rfl⟩, fun h => ?_⟩
  have hin : namesakes.root.Within namesakes.members[0] := Node.Within.root.member List.mem_cons_self
  have hs : (namesakes.members[0].lookup? "A".toList).isSome := by decide +kernel
  have hn : ∀ m ∈ namesakes.members[0].members, m.isAddressable → m.name ≠ "A".toList := by
    intro m hm _
    rcases List.mem_pair.mp hm with rfl | rfl <;> decide
  obtain ⟨way, -, hu⟩ := h _ "A".toList hin hs hn
  have hg := hu [0, 0] ⟨_, .through rfl (.member rfl rfl), rfl⟩
  have hh := hu [1, 0] ⟨_, .through rfl (.member rfl rfl), rfl⟩
  exact absurd (hg.trans hh.symm) (by decide)

end Layout
end Copybook
