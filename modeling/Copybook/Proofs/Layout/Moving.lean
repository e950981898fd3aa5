import Copybook.Proofs.Layout.Placement
import Copybook.Proofs.Source.Declaration

/-!
Laying out the same items somewhere else. The nodes are the same ones, moved by as many bytes as the first of them
is, if the items that redefine others find what they redefine moved by as many.
-/

namespace Copybook

namespace Noting

variable {ε α β γ δ : Type}

-- Whenever the first of two computations comes to a result, so does the second, whatever has been noted before, and
-- the results are related.
def Follows (x : Noting ε α) (y : Noting ε β) (r : α → β → Prop) : Prop :=
  ∀ ns a ns', x.Yields ns a ns' → ∀ ms, ∃ b ms', y.Yields ms b ms' ∧ r a b

namespace Follows

variable {x : Noting ε α} {y : Noting ε β} {r s : α → β → Prop}

theorem pure {a : α} {b : β} (h : r a b) : Follows (pure a : Noting ε α) (pure b : Noting ε β) r :=
  fun _ _ _ ha ms => ⟨b, ms, rfl, ha.pure.left ▸ h⟩

theorem throw (e : ε) : Follows (throw e : Noting ε α) y r :=
  fun _ _ _ h => absurd h (not_yields_throw e)

theorem mono (h : Follows x y r) (hs : ∀ a b, r a b → s a b) : Follows x y s :=
  fun _ _ _ hx ms =>
    have ⟨b, ms', hy, hr⟩ := h _ _ _ hx ms
    ⟨b, ms', hy, hs _ b hr⟩

theorem bind {f : α → Noting ε γ} {g : β → Noting ε δ} {s : γ → δ → Prop} (h : Follows x y r)
    (hf : ∀ a b, r a b → Follows (f a) (g b) s) : Follows (x >>= f) (y >>= g) s := by
  intro ns c ns' hx ms
  have ⟨a, _, ha, hc⟩ := hx.bind
  have ⟨b, ms', hb, hr⟩ := h _ _ _ ha ms
  have ⟨d, ms'', hd, hs⟩ := hf a b hr _ _ _ hc ms'
  exact ⟨d, ms'', hb.seq hd, hs⟩

-- What is noted, on either side, does not matter for the results.
theorem noting {p q : Prop} [Decidable p] [Decidable q] {m n : Notice} (h : Follows x y r) :
    Follows (if p then note m >>= fun _ => x else x) (if q then note n >>= fun _ => y else y) r := by
  have left : Follows (if p then note m >>= fun _ => x else x) y r := by
    split
    case isTrue =>
      intro ns a ns' hx
      have ⟨_, _, _, hx⟩ := hx.bind
      exact h _ _ _ hx
    case isFalse => exact h
  by_cases hq : q
  case pos =>
    simp only [if_pos hq]
    exact fun ns a ns' hx ms => left ns a ns' hx (ms ++ [n])
  case neg =>
    simp only [if_neg hq]
    exact left

theorem skip {x y : Noting ε Unit} {f : Unit → Noting ε γ} {g : Unit → Noting ε δ} {s : γ → δ → Prop}
    (hy : ∀ ms, ∃ ms', y.Yields ms () ms') (h : Follows (f ()) (g ()) s) : Follows (x >>= f) (y >>= g) s :=
  bind (r := fun _ _ => True) (fun _ _ _ _ ms => have ⟨ms', hy⟩ := hy ms; ⟨(), ms', hy, trivial⟩) fun _ _ _ => h

end Follows
end Noting

def Item.moved (δ : Nat) (item : Item) : Item :=
  { item with offset := item.offset + δ }

namespace Node

variable {δ : Nat}

mutual

-- The node with the first of its occurrences further on.
def moved (δ : Nat) : Node → Node
  | field item type => field (item.moved δ) type
  | group item length members => group (item.moved δ) length (movedAll δ members)
  | array count element => array count (element.moved δ)

def movedAll (δ : Nat) : List Node → List Node
  | [] => []
  | n :: ns => n.moved δ :: movedAll δ ns

end

@[simp]
theorem item_moved (n : Node) : (n.moved δ).item = n.item.moved δ := by
  cases n <;> simp only [moved, item]
  case array count element => exact item_moved element

@[simp]
theorem offset_moved (n : Node) : (n.moved δ).offset = n.offset + δ :=
  congrArg Item.offset (item_moved n)

@[simp]
theorem name_moved (n : Node) : (n.moved δ).name = n.name := by
  simp [name, Item.moved]

@[simp]
theorem length_moved (n : Node) : (n.moved δ).length = n.length := by
  cases n <;> simp only [moved, length]
  case array count element => rw [length_moved element]

mutual

@[simp]
theorem moved_zero (n : Node) : n.moved 0 = n := by
  cases n <;> simp only [moved, Item.moved, Nat.add_zero]
  case group item length members => rw [movedAll_zero members]
  case array count element => rw [moved_zero element]

@[simp]
theorem movedAll_zero (ns : List Node) : movedAll 0 ns = ns := by
  cases ns
  case nil => rfl
  case cons n ns => rw [movedAll, moved_zero n, movedAll_zero ns]

end

-- What is redefined under that name is found in both places, and in the second one it starts so much further on.
def SameTarget (δ : Nat) (name : Text) (earlier earlier' : List Node) : Prop :=
  (earlier'.find? (·.name == name)).map offset = (earlier.find? (·.name == name)).map (·.offset + δ)

theorem SameTarget.cons {name : Text} {n n' : Node} {earlier earlier' : List Node}
    (h : n.name ≠ name → SameTarget δ name earlier earlier') (hn : n'.name = n.name)
    (ho : n'.offset = n.offset + δ) : SameTarget δ name (n :: earlier) (n' :: earlier') := by
  rw [SameTarget, List.find?_cons, List.find?_cons, hn]
  cases hc : n.name == name
  case true => simp [ho]
  case false => exact h (by simpa using hc)

end Node

namespace Layout

open Noting Node

variable {codec : Codec} {d d' : Declaration} {δ : Nat} {earlier earlier' : List Node}

theorem compare_yields (d : Declaration) (target : Option Node) (n : Node) (ms : List Notice) :
    ∃ ms', (compare d target n).Yields ms () ms' := by
  unfold compare
  split
  · exact ⟨ms, rfl⟩
  · split <;> exact ⟨_, rfl⟩

theorem target?_follows (hr : d'.redefines = d.redefines)
    (h : ∀ name, d.redefines = some name → SameTarget δ name earlier earlier') :
    Follows (target? earlier d) (target? earlier' d') fun t t' =>
      ∀ cursor, (t'.map offset).getD (cursor + δ) = (t.map offset).getD cursor + δ := by
  unfold target?
  rw [hr]
  cases hd : d.redefines
  case none => exact .pure fun _ => rfl
  case some name =>
    have h := h name hd
    rw [SameTarget] at h
    simp only
    cases hf : earlier.find? (·.name == name) <;> rw [hf] at h
    case none => exact .throw _
    case some t =>
      cases hf' : earlier'.find? (·.name == name) <;> rw [hf'] at h
      case none => contradiction
      case some t' => exact .pure fun _ => Option.some.inj h

theorem initial_follows (hv : d'.value = d.value) (type : FieldType) :
    Follows (initial codec d type) (initial codec d' type) fun b b' => b = b' := by
  unfold initial
  rw [hv]
  cases d.value
  case none => exact .pure rfl
  case some literal =>
    simp only
    cases Initial.encode literal type type.length codec
    case ok b => exact .pure rfl
    case error fault =>
      simp only
      split <;> exact .throw _

theorem fieldType_follows (format : Text) :
    Follows (fieldType d format) (fieldType d' format) fun t t' => t = t' := by
  unfold fieldType
  cases Picture.classify format
  case ok type => exact .pure rfl
  case error fault => exact .throw _

-- The item of another declaration, so much further on.
def Beside (d d' : Declaration) (δ : Nat) (item item' : Item) : Prop :=
  item.name = d.name ∧ item' = { item.moved δ with name := d'.name }

-- Two declarations that differ in their names and occurrences alone are laid out alike if their members are.
theorem place_follows {members members' : List Outline} {cursor : Nat} {r : List Node → List Node → Prop}
    (hp : d'.picture = d.picture) (hv : d'.value = d.value) (hr : d'.redefines = d.redefines)
    (ht : ∀ name, d.redefines = some name → SameTarget δ name earlier earlier') (he : members = [] → members' = [])
    (hm : ∀ start, Follows (placeAll codec [] start members) (placeAll codec [] (start + δ) members') fun a b =>
      r a.1 b.1 ∧ b.2 = a.2 + δ) :
    Follows (place codec earlier cursor (.item d members)) (place codec earlier' (cursor + δ) (.item d' members'))
      fun n n' => ∃ item item', Beside d d' δ item item' ∧
        ((∃ type, members = [] ∧ n = occurring d (.field item type) ∧ n' = occurring d' (.field item' type)) ∨
          ∃ length nodes nodes', n = occurring d (.group item length nodes) ∧
            n' = occurring d' (.group item' length nodes') ∧ r nodes nodes') := by
  rw [place, place]
  refine (target?_follows hr ht).bind fun t t' ho => ?_
  simp only [hp, ho]
  cases d.picture
  case some format =>
    refine (fieldType_follows format).bind fun type _ htype => ?_
    subst htype
    refine (initial_follows hv type).bind fun bytes _ hbytes => ?_
    subst hbytes
    refine .skip (compare_yields _ _ _) ?_
    cases members
    case nil =>
      rw [he rfl]
      exact .pure ⟨_, _, ⟨rfl, by rw [hr, hv]; rfl⟩, .inl ⟨type, rfl, rfl, rfl⟩⟩
    case cons => exact .throw _
  case none =>
    refine (hm _).bind ?_
    rintro ⟨nodes, stop⟩ ⟨nodes', stop'⟩ ⟨hn, hs⟩
    simp only at hn hs
    simp only [hs, Nat.add_sub_add_right]
    refine .noting <| (initial_follows hv _).bind fun bytes _ hbytes => ?_
    subst hbytes
    refine .skip (compare_yields _ _ _) ?_
    exact .pure ⟨_, _, ⟨rfl, by rw [hr, hv]; rfl⟩, .inr ⟨_, nodes, nodes', rfl, rfl, hn⟩⟩

theorem moved_occurring (n : Node) : (occurring d n).moved δ = occurring d (n.moved δ) := by
  unfold occurring
  split
  · rfl
  · rw [Node.moved]

mutual

-- An item that is laid out further on is the same node moved there.
theorem place_moved (o : Outline) {earlier earlier' : List Node} {cursor δ : Nat}
    (ht : ∀ name, o.declaration.redefines = some name → SameTarget δ name earlier earlier') :
    Follows (place codec earlier cursor o) (place codec earlier' (cursor + δ) o) fun n n' =>
      n' = n.moved δ ∧ n.name = o.declaration.name := by
  have ⟨d, members⟩ := o
  have hm (start : Nat) : Follows (placeAll codec [] start members) (placeAll codec [] (start + δ) members)
      fun a b => b.1 = movedAll δ a.1 ∧ b.2 = a.2 + δ :=
    placeAll_moved members fun _ _ => rfl
  refine (place_follows (r := fun ns ns' => ns' = movedAll δ ns) rfl rfl rfl ht id hm).mono ?_
  rintro n n' ⟨item, item', ⟨hname, hitem⟩, h⟩
  have hitem : item' = item.moved δ := by rw [hitem, ←hname]; rfl
  rcases h with ⟨type, _, hn, hn'⟩ | ⟨length, nodes, nodes', hn, hn', hnodes⟩
  case inl =>
    rw [hn, hn', hitem, moved_occurring, Node.name, item_occurring]
    exact ⟨rfl, hname⟩
  case inr =>
    rw [hn, hn', hitem, hnodes, moved_occurring, Node.name, item_occurring]
    exact ⟨rfl, hname⟩

theorem placeAll_moved (os : List Outline) {earlier earlier' : List Node} {cursor δ : Nat}
    (ht : ∀ name, Declaration.redefined name (os.map Outline.declaration) → SameTarget δ name earlier earlier') :
    Follows (placeAll codec earlier cursor os) (placeAll codec earlier' (cursor + δ) os) fun a b =>
      b.1 = movedAll δ a.1 ∧ b.2 = a.2 + δ := by
  cases os
  case nil =>
    rw [placeAll, placeAll]
    exact .pure ⟨rfl, rfl⟩
  case cons o os =>
    rw [placeAll, placeAll]
    refine (place_moved o fun name hr => ht name (by simp [Declaration.redefined, hr])).bind ?_
    rintro n _ ⟨rfl, hname⟩
    have ha : advance (cursor + δ) o.declaration (n.moved δ) = advance cursor o.declaration n + δ := by
      unfold advance
      split
      · rfl
      · rw [length_moved, Nat.add_right_comm]
    rw [ha]
    have ht (name : Text) (hr : Declaration.redefined name (os.map Outline.declaration)) :
        SameTarget δ name (n :: earlier) (n.moved δ :: earlier') :=
      .cons (fun hne => ht name (by simp [Declaration.redefined, hr, ←hname, hne])) (name_moved n) (offset_moved n)
    refine (placeAll_moved os ht).bind ?_
    rintro ⟨ns, stop⟩ ⟨ns', stop'⟩ ⟨hns, hs⟩
    exact .pure ⟨by rw [movedAll, ←hns], hs⟩

end

-- An item does not depend on what has been noted before it.
theorem place_kept (o : Outline) (earlier : List Node) (cursor : Nat) :
    Follows (place codec earlier cursor o) (place codec earlier cursor o) fun n n' => n' = n := by
  refine (place_moved (δ := 0) o fun _ _ => rfl).mono ?_
  rintro n n' ⟨hn, -⟩
  rw [hn, moved_zero]

-- Nor do items depend on what is before them, but for the offsets of what they redefine.
theorem placeAll_kept (os : List Outline) {cursor : Nat}
    (ht : ∀ name, Declaration.redefined name (os.map Outline.declaration) → SameTarget 0 name earlier earlier') :
    Follows (placeAll codec earlier cursor os) (placeAll codec earlier' cursor os) fun a b => b = a := by
  refine (placeAll_moved os ht).mono ?_
  rintro ⟨ns, stop⟩ ⟨ns', stop'⟩ ⟨hns, hs⟩
  rw [movedAll_zero] at hns
  exact Prod.ext hns hs

end Layout
end Copybook
