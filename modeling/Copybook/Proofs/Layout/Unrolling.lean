import Copybook.Proofs.Layout.Extent
import Copybook.Proofs.Layout.Template
import Copybook.Proofs.Source.Unrolling

/-!
Occurrences are the same as items written one after another: a copybook in which an item with occurrences has been
unrolled lays out the same record.
-/

namespace Copybook

namespace Extent

-- Among some extents, those of `size` items within an array that has `count` elements; among the others, in their
-- place, those of the items in one element after another. There are `before` extents before them.
inductive Unrolls (count size before : Nat) : List Extent → List Extent → Prop
  | intro {fore items aft : List Extent} {outer : List (Nat × Nat)} {length : Nat} (hf : fore.length = before)
    (hs : items.length = size) (ha : items.head?.all (·.arrays = [])) :
    Unrolls count size before (fore ++ (items.map (·.within (outer ++ [(count, length)])) ++ aft))
      (fore ++ ((List.range count).flatMap (fun k => items.map fun e => (e.moved (k * length)).within outer) ++ aft))

namespace Unrolls

variable {count size before : Nat} {es es' : List Extent}

theorem append_left (fore : List Extent) (h : Unrolls count size before es es') :
    Unrolls count size (fore.length + before) (fore ++ es) (fore ++ es') := by
  obtain ⟨hf, hs, ha⟩ := h
  rw [←List.append_assoc, ←List.append_assoc fore]
  exact .intro (by rw [List.length_append, hf]) hs ha

theorem append_right (aft : List Extent) (h : Unrolls count size before es es') :
    Unrolls count size before (es ++ aft) (es' ++ aft) := by
  obtain ⟨hf, hs, ha⟩ := h
  simp only [List.append_assoc]
  exact .intro hf hs ha

-- The blocks of a list are found by multiples of their length.
theorem getElem?_flatMap {f : Nat → List Extent} {ks : List Nat} {k j a : Nat} (hf : ∀ k, (f k).length = size)
    (hk : ks[k]? = some a) (hj : j < size) : (ks.flatMap f)[k * size + j]? = (f a)[j]? := by
  induction ks generalizing k
  case nil => simp at hk
  case cons b ks hi =>
    rw [List.flatMap_cons]
    cases k
    case zero =>
      cases hk
      rw [Nat.zero_mul, Nat.zero_add, List.getElem?_append_left (by rwa [hf])]
    case succ k =>
      rw [List.getElem?_append_right (by rw [hf, Nat.add_mul]; omega), hf,
        show (k + 1) * size + j - size = k * size + j by rw [Nat.add_mul]; omega]
      exact hi (by simpa using hk)

-- What is outside of the item is the same, and each element of the array has become items of its own.
theorem extents (h : Unrolls count size before es es') :
    es'.take before = es.take before ∧ es'.drop (before + count * size) = es.drop (before + size) ∧
      ∃ outer length, ∀ k < count, ∀ j < size, ∃ p q inner, es[before + j]? = some p ∧
        es'[before + k * size + j]? = some q ∧ p.arrays = outer ++ (count, length) :: inner ∧
        q.arrays = outer ++ inner ∧ (j = 0 → inner = []) ∧ q.length = p.length ∧
        ∀ indexes indexes', indexes.length = outer.length →
          q.address (indexes ++ indexes') = p.address (indexes ++ k :: indexes') := by
  obtain @⟨fore, items, aft, outer, length, rfl, rfl, ha⟩ := h
  have hlen (k : Nat) : (items.map fun e => (e.moved (k * length)).within outer).length = items.length :=
    List.length_map _
  refine ⟨by simp, ?_, outer, length, fun k hk j hj => ?_⟩
  · have hd (block : List Extent) : (fore ++ (block ++ aft)).drop (fore.length + block.length) = aft := by
      rw [←List.append_assoc, ←List.length_append, List.drop_left]
    have hu := hd ((List.range count).flatMap fun k => items.map fun e => (e.moved (k * length)).within outer)
    have hv := hd (items.map (·.within (outer ++ [(count, length)])))
    simp only [List.length_flatMap, hlen, List.map_const', List.sum_replicate, List.length_range, smul_eq_mul,
      List.length_map] at hu hv
    rw [hu, hv]
  · have hp : (fore ++ (items.map (·.within (outer ++ [(count, length)])) ++ aft))[fore.length + j]? =
        some ((items[j]).within (outer ++ [(count, length)])) := by
      rw [List.getElem?_append_right (Nat.le_add_right ..), Nat.add_sub_cancel_left,
        List.getElem?_append_left (by rwa [List.length_map]), List.getElem?_map, List.getElem?_eq_getElem hj]
      rfl
    have hq : (fore ++ ((List.range count).flatMap (fun k => items.map fun e => (e.moved (k * length)).within outer) ++
        aft))[fore.length + k * items.length + j]? = some (((items[j]).moved (k * length)).within outer) := by
      have hb := getElem?_flatMap hlen (List.getElem?_range hk) hj
      rw [List.getElem?_map, List.getElem?_eq_getElem hj] at hb
      rw [Nat.add_assoc, List.getElem?_append_right (Nat.le_add_right ..), Nat.add_sub_cancel_left,
        List.getElem?_append_left (List.getElem?_eq_some_iff.mp hb).1]
      exact hb
    refine ⟨_, _, (items[j]).arrays, hp, hq, by simp [within], rfl, ?_, rfl, fun _ _ => address_moved_within _⟩
    rintro rfl
    simpa [List.head?_eq_getElem?, List.getElem?_eq_getElem hj] using ha

end Unrolls
end Extent

namespace Node

def renamed (name : Text) : Node → Node
  | field item type => field { item with name } type
  | group item length members => group { item with name } length members
  | array count element => array count (element.renamed name)

@[simp]
theorem name_renamed (n : Node) (name : Text) : (n.renamed name).name = name := by
  cases n <;> try rfl
  case array count element => exact name_renamed element name

@[simp]
theorem length_renamed (n : Node) (name : Text) : (n.renamed name).length = n.length := by
  cases n <;> simp only [renamed, length]
  case array count element => rw [length_renamed element name]

-- Copies of a node one after another, each under a name of its own, the first of them moved by `shift`.
def copies (n : Node) (shift : Nat) : List Text → List Node
  | [] => []
  | name :: names => (n.moved shift).renamed name :: n.copies (shift + n.length) names

theorem name_of_mem_copies {n m : Node} {shift : Nat} {names : List Text} (h : m ∈ n.copies shift names) :
    m.name ∈ names := by
  induction names generalizing shift <;> simp only [copies, List.not_mem_nil, List.mem_cons] at h
  case cons name names hi =>
    rcases h with h | h
    · simp [h]
    · simp [hi h]

-- Among the members of some group in one list of nodes, copies of the element of an array stand in place of the
-- array, after as many items as there are `before`. There are `size` items to the element.
inductive Unrolls (names : List Text) (size : Nat) : Nat → List Node → List Node → Prop
  | here {element : Node} {ns : List Node} (ha : element.arrays = []) (hs : (element.extents []).length = size) :
    Unrolls names size 0 (array names.length element :: ns) (element.copies 0 names ++ ns)
  | later {before : Nat} {n : Node} {ns ns' : List Node} : Unrolls names size before ns ns' →
    Unrolls names size ((n.extents []).length + before) (n :: ns) (n :: ns')
  | inside {before length : Nat} {d : Declaration} {item : Item} {members members' ns : List Node} :
    Unrolls names size before members members' →
    Unrolls names size (before + 1) (Layout.occurring d (group item length members) :: ns)
      (Layout.occurring d (group item length members') :: ns)

theorem occurrencesAll_append (shift : Nat) (ns ms : List Node) :
    occurrencesAll shift (ns ++ ms) = occurrencesAll shift ns ++ occurrencesAll shift ms := by
  induction ns
  case nil => rfl
  case cons n ns hi => simp [occurrencesAll, hi]

mutual

-- A node that has been moved holds the initial values of the one that has not, as far on.
theorem initials_moved (n : Node) (δ shift : Nat) :
    initials ((n.moved δ).occurrences shift) = initials (n.occurrences (shift + δ)) := by
  have ho (offset : Nat) : offset + δ + shift = offset + (shift + δ) := by omega
  cases n <;> simp only [moved, occurrences]
  case field item type => simp [initials_cons, Node.item, Node.offset, Item.moved, ho]
  case group item length members =>
    simp [initials_cons, Node.item, Node.offset, Item.moved, ho, initials_movedAll members]
  case array count element => simp [initials_moved element, Nat.add_right_comm]

theorem initials_movedAll (ns : List Node) (δ shift : Nat) :
    initials (occurrencesAll shift (movedAll δ ns)) = initials (occurrencesAll (shift + δ) ns) := by
  cases ns
  case nil => rfl
  case cons n ns => simp [movedAll, occurrencesAll, initials_moved n, initials_movedAll ns]

end

theorem initials_renamed (n : Node) (name : Text) (shift : Nat) :
    initials ((n.renamed name).occurrences shift) = initials (n.occurrences shift) := by
  cases n <;> simp only [renamed, occurrences]
  case field => rfl
  case group => simp [initials_cons, Node.item, Node.offset]
  case array count element => simp [initials_renamed element]

theorem initials_copies (n : Node) (shift start : Nat) (names : List Text) :
    initials (occurrencesAll shift (n.copies start names)) = (List.range names.length).flatMap fun k =>
      initials (n.occurrences (shift + start + k * n.length)) := by
  induction names generalizing start
  case nil => rfl
  case cons name names hi =>
    have hs (k : Nat) : shift + (start + n.length) + k * n.length = shift + start + (k + 1) * n.length := by
      rw [Nat.add_mul]
      omega
    simp [copies, occurrencesAll, hi, initials_renamed, initials_moved, List.range_succ_eq_map, List.flatMap_map, hs]

-- The initial values are written to the same places in the same order.
theorem Unrolls.initials {names : List Text} {size before : Nat} {ns ns' : List Node}
    (h : Unrolls names size before ns ns') (shift : Nat) :
    initials (occurrencesAll shift ns') = initials (occurrencesAll shift ns) := by
  induction h generalizing shift
  case here element ns _ _ =>
    simp [occurrencesAll_append, initials_copies, occurrencesAll, occurrences]
  case later n ns ns' _ hi => simp [occurrencesAll, hi]
  case inside d item members members' ns _ hi =>
    rw [occurrencesAll, occurrencesAll, initials_append, initials_append, Layout.occurring, Layout.occurring]
    cases d.occurs <;> simp [occurrences, initials_cons, Node.item, Node.offset, hi, Node.length]

theorem extents_renamed (n : Node) (name : Text) (outer : List (Nat × Nat)) :
    (n.renamed name).extents outer = n.extents outer := by
  cases n <;> simp only [renamed, extents]
  case array count element => rw [extents_renamed element, length_renamed]

theorem extents_copies (n : Node) (start : Nat) (names : List Text) (outer : List (Nat × Nat)) :
    extentsAll outer (n.copies start names) = (List.range names.length).flatMap fun k =>
      (n.extents outer).map (·.moved (start + k * n.length)) := by
  induction names generalizing start
  case nil => rfl
  case cons name names hi =>
    have hs (k : Nat) : start + n.length + k * n.length = start + (k + 1) * n.length := by
      rw [Nat.add_mul]
      omega
    simp [copies, extentsAll, hi, extents_renamed, extents_moved, List.range_succ_eq_map, List.flatMap_map, hs]

theorem Unrolls.extents {names : List Text} {size before : Nat} {ns ns' : List Node}
    (h : Unrolls names size before ns ns') (outer : List (Nat × Nat)) :
    Extent.Unrolls names.length size before (extentsAll outer ns) (extentsAll outer ns') := by
  induction h generalizing outer
  case here element ns ha hs =>
    have hh : (element.extents []).head?.all (·.arrays = []) := by
      cases element
      case array => contradiction
      all_goals simp [Node.extents]
    rw [extentsAll_append, extentsAll, Node.extents, extents_copies, extents_eq element, extents_eq element outer]
    simp only [List.map_map, Nat.zero_add]
    show Extent.Unrolls _ size 0 ([] ++ _) ([] ++ _)
    exact .intro rfl hs hh
  case later n ns ns' _ hi =>
    have hl : (n.extents []).length = (n.extents outer).length := by
      rw [extents_eq n outer, List.length_map]
    rw [extentsAll, extentsAll, hl]
    exact (hi outer).append_left _
  case inside before length d item members members' ns _ hi =>
    have hg (outer : List (Nat × Nat)) : Extent.Unrolls names.length size (before + 1)
        ((group item length members).extents outer) ((group item length members').extents outer) := by
      rw [Nat.add_comm, Node.extents, Node.extents]
      exact (hi outer).append_left [_]
    rw [extentsAll, extentsAll, Layout.occurring, Layout.occurring]
    refine .append_right _ ?_
    cases d.occurs
    case none => exact hg outer
    case some count =>
      simp only [Node.extents, Node.length]
      exact hg _

end Node

namespace Layout

open Noting Node

variable {codec : Codec} {x : Declaration} {names : List Text} {size before : Nat} {members os os' : List Outline}
  {earlier : List Node} {cursor stop : Nat} {nodes : List Node} {n : Node} {notices notices' notices'' : List Notice}

theorem placeAll_yields {o : Outline} (hn : (place codec earlier cursor o).Yields notices n notices')
    (hns : (placeAll codec (n :: earlier) (advance cursor o.declaration n) os).Yields notices' (nodes, stop)
      notices'') :
    (placeAll codec earlier cursor (o :: os)).Yields notices (n :: nodes, stop) notices'' := by
  rw [placeAll]
  exact hn.seq (hns.seq rfl)

theorem name_of_place {o : Outline} (h : (place codec earlier cursor o).Yields notices n notices') :
    n.name = o.declaration.name := by
  obtain ⟨d, members⟩ := o
  obtain ⟨m, hn, hd, _⟩ := place_declares h
  rw [hn]
  exact (declares_occurring hd).name

-- There is an extent for each declaration.
theorem length_extents {o : Outline} (h : (place codec earlier cursor o).Yields notices n notices') :
    (n.extents []).length = o.flatten.length := by
  have hp := (place_parts o h .nil).length_eq
  have he : (⟨n, []⟩ :: n.inside [n]).map Part.extent = n.extents [] := extents_parts n rfl rfl (by simp)
  rw [←he, List.length_map, ←hp, ←Outline.map_parts o [], List.length_map]

theorem redefines_of_redefined {name : Text} {ds : List Declaration} (h : Declaration.redefined name ds) :
    ∃ d ∈ ds, d.redefines = some name := by
  induction ds
  case nil => contradiction
  case cons d ds hi =>
    simp only [Declaration.redefined, Bool.or_eq_true, Bool.and_eq_true, beq_iff_eq] at h
    rcases h with h | ⟨_, h⟩
    · exact ⟨d, by simp, h⟩
    · have ⟨e, he, h⟩ := hi h
      exact ⟨e, by simp [he], h⟩

mutual

-- What an item redefines has been declared.
theorem place_targets (o : Outline) {earlier : List Node} {cursor : Nat} {n : Node} {notices notices' : List Notice}
    (h : (place codec earlier cursor o).Yields notices n notices') :
    ∀ d ∈ o.flatten, ∀ name, d.redefines = some name →
      (∃ t ∈ earlier, t.name = name) ∨ ∃ e ∈ o.flatten, e.name = name := by
  have ⟨d, members⟩ := o
  have ⟨t, m, ht, h⟩ := place_cases h
  intro e he name hr
  rw [Outline.flatten] at he ⊢
  rcases List.mem_cons.mp he with he | he
  case inl =>
    subst he
    rcases (target?_yields ht).right with ⟨hn, _⟩ | ⟨name', s, hr', hs, _⟩
    case inl => exact nomatch hn.symm.trans hr
    case inr =>
      cases hr'.symm.trans hr
      exact .inl ⟨s, List.mem_of_find?_eq_some hs, by simpa using List.find?_some hs⟩
  case inr =>
    rcases h with ⟨_, _, _, _, _, _, hm, _⟩ | ⟨_, _, _, _, _, _, _, _, hm, _⟩
    case inl =>
      rw [hm] at he
      contradiction
    case inr =>
      rcases placeAll_targets members hm e he name hr with ⟨_, h, _⟩ | ⟨e', he', hn⟩
      case inl => contradiction
      case inr => exact .inr ⟨e', List.mem_cons_of_mem _ he', hn⟩

theorem placeAll_targets (os : List Outline) {earlier : List Node} {cursor stop : Nat} {nodes : List Node}
    {notices notices' : List Notice} (h : (placeAll codec earlier cursor os).Yields notices (nodes, stop) notices') :
    ∀ d ∈ Outline.flattenAll os, ∀ name, d.redefines = some name →
      (∃ t ∈ earlier, t.name = name) ∨ ∃ e ∈ Outline.flattenAll os, e.name = name := by
  cases os
  case nil => simp [Outline.flattenAll]
  case cons o os =>
    have ⟨n, ns, m, _, hn, hns⟩ := placeAll_cases h
    intro d hd name hr
    rw [Outline.flattenAll] at hd ⊢
    rcases List.mem_append.mp hd with hd | hd
    case inl =>
      rcases place_targets o hn d hd name hr with h | ⟨e, he, h⟩
      · exact .inl h
      · exact .inr ⟨e, List.mem_append_left _ he, h⟩
    case inr =>
      rcases placeAll_targets os hns d hd name hr with ⟨t, ht, h⟩ | ⟨e, he, h⟩
      case inl =>
        rcases List.mem_cons.mp ht with ht | ht
        · exact .inr ⟨o.declaration, Outline.mem_flattenAll List.mem_cons_self, by rw [←h, ht, name_of_place hn]⟩
        · exact .inl ⟨t, ht, h⟩
      case inr => exact .inr ⟨e, List.mem_append_right _ he, h⟩

end

-- An item with occurrences is an array of what the item is without them.
theorem place_single {count : Nat} (h : (place codec earlier cursor (.item x members)).Yields notices n notices')
    (hx : x.occurs = some count) (hr : x.redefines = none) :
    ∃ element, n = .array count element ∧ element.arrays = [] ∧ ∀ name δ earlier' ms, ∃ ms',
      (place codec earlier' (cursor + δ) (.item (x.single name) members)).Yields ms
        ((element.moved δ).renamed name) ms' := by
  have ho (m : Node) : occurring x m = .array count m := by rw [occurring, hx]
  obtain ⟨element, he, _, hc, _⟩ := place_declares h
  rw [ho] at he
  have ha : element.arrays = [] := by
    cases element
    case array => contradiction
    all_goals rfl
  refine ⟨element, he, ha, fun name δ earlier' ms => ?_⟩
  have hm (start : Nat) : Follows (placeAll codec [] start members) (placeAll codec [] (start + δ) members)
      fun a b => b.1 = movedAll δ a.1 ∧ b.2 = a.2 + δ :=
    placeAll_moved members fun _ _ => rfl
  have hf : Follows (place codec earlier cursor (.item x members))
      (place codec earlier' (cursor + δ) (.item (x.single name) members)) _ :=
    place_follows (r := fun ns ns' => ns' = movedAll δ ns) rfl rfl rfl (fun _ h => nomatch hr.symm.trans h) id hm
  obtain ⟨n', ms', hy, item, item', ⟨_, hitem⟩, hn⟩ := hf _ _ _ h ms
  refine ⟨ms', ?_⟩
  simp only [he, ho, array.injEq, true_and] at hn
  rcases hn with ⟨type, _, rfl, hn⟩ | ⟨length, nodes, _, rfl, hn, rfl⟩ <;> rw [hn, hitem] at hy
  · exact hy
  · exact hy

-- Items one after another are copies of one node if each of them is.
theorem placeAll_copies {element : Node} (hr : x.redefines = none)
    (h : ∀ name δ earlier ms, ∃ ms', (place codec earlier (cursor + δ) (.item (x.single name) members)).Yields ms
      ((element.moved δ).renamed name) ms') (names : List Text) (earlier : List Node) (δ : Nat)
    (hos : ∀ ms, ∃ ms', (placeAll codec ((element.copies δ names).reverse ++ earlier)
      (cursor + δ + names.length * element.length) os).Yields ms (nodes, stop) ms') (ms : List Notice) :
    ∃ ms', (placeAll codec earlier (cursor + δ)
      (names.map (fun name => .item (x.single name) members) ++ os)).Yields ms
        (element.copies δ names ++ nodes, stop) ms' := by
  induction names generalizing earlier δ ms
  case nil => simpa [copies] using hos ms
  case cons name names hi =>
    obtain ⟨ms', hn⟩ := h name δ earlier ms
    have ha : advance (cursor + δ) (x.single name) ((element.moved δ).renamed name) =
        cursor + (δ + element.length) := by
      simp [advance, Declaration.single, hr, Nat.add_assoc]
    have hc : cursor + δ + (names.length + 1) * element.length =
        cursor + (δ + element.length) + names.length * element.length := by
      rw [Nat.add_mul]
      omega
    simp only [copies, List.reverse_cons, List.append_assoc, List.length_cons, hc] at hos
    obtain ⟨ms'', hns⟩ := hi _ _ hos ms'
    refine ⟨ms'', placeAll_yields hn ?_⟩
    rwa [Outline.declaration, ha]

-- What is redefined is found before an array and before copies of its element alike if it is neither.
theorem sameTarget_copies {element : Node} {name : Text} (he : element.name ≠ name) (hn : name ∉ names)
    (earlier : List Node) :
    SameTarget 0 name (array names.length element :: earlier) ((element.copies 0 names).reverse ++ earlier) := by
  have hc : (element.copies 0 names).reverse.find? (·.name == name) = none := by
    refine List.find?_eq_none.mpr fun c hc he => hn ?_
    exact beq_iff_eq.mp he ▸ name_of_mem_copies (List.mem_reverse.mp hc)
  have ha : (array names.length element).name ≠ name := he
  rw [SameTarget, List.find?_append, hc, Option.none_or, List.find?_cons_of_neg (by simpa using ha)]
  rfl

-- In place of an item there are copies of what its array consists of, and what comes after them is the same.
theorem placeAll_unrolled (hx : x.occurs = some names.length) (hr : x.redefines = none)
    (ht : Declaration.redefined x.name (os.map Outline.declaration) = false)
    (hf : ∀ name, Declaration.redefined name (os.map Outline.declaration) → name ∉ names) :
    Follows (placeAll codec earlier cursor (.item x members :: os))
      (placeAll codec earlier cursor (names.map (fun name => .item (x.single name) members) ++ os)) fun a b =>
        Node.Unrolls names ((Outline.flattenAll members).length + 1) 0 a.1 b.1 ∧ b.2 = a.2 := by
  intro ns (_, stop) ns' h ms
  obtain ⟨n, nodes, m, rfl, hn, hns⟩ := placeAll_cases h
  obtain ⟨element, rfl, harrays, hsingle⟩ := place_single hn hx hr
  have hne (name : Text) (h : Declaration.redefined name (os.map Outline.declaration)) : element.name ≠ name := by
    rintro rfl
    have he : element.name = x.name := name_of_place hn
    rw [he, ht] at h
    contradiction
  have ha : advance cursor x (array names.length element) = cursor + 0 + names.length * element.length := by
    simp [advance, hr, Node.length]
  rw [Outline.declaration, ha] at hns
  have hos (ms : List Notice) : ∃ ms', (placeAll codec ((element.copies 0 names).reverse ++ earlier)
      (cursor + 0 + names.length * element.length) os).Yields ms (nodes, stop) ms' := by
    obtain ⟨_, ms', hy, rfl⟩ :=
      placeAll_kept os (fun name h => sameTarget_copies (hne name h) (hf name h) earlier) _ _ _ hns ms
    exact ⟨ms', hy⟩
  obtain ⟨ms', hy⟩ := placeAll_copies hr hsingle names earlier 0 hos ms
  have hlen := length_extents hn
  rw [extents, extents_eq, List.length_map, Outline.flatten, List.length_cons] at hlen
  exact ⟨_, ms', hy, .here harrays hlen, rfl⟩

-- A group in which an item is unrolled is the same group but for the members of it. It cannot become a field: there is
-- something among the members.
theorem place_unrolls {d : Declaration} {members members' : List Outline}
    (hu : Outline.Unrolls x names size before members members')
    (hm : ∀ start, Follows (placeAll codec [] start members) (placeAll codec [] start members') fun a b =>
      Node.Unrolls names (size + 1) before a.1 b.1 ∧ b.2 = a.2) :
    Follows (place codec earlier cursor (.item d members)) (place codec earlier cursor (.item d members')) fun n n' =>
      ∃ item length ns ns', n = occurring d (.group item length ns) ∧ n' = occurring d (.group item length ns') ∧
        Node.Unrolls names (size + 1) before ns ns' := by
  have hne : members ≠ [] := by
    rintro rfl
    cases hu
  have hf : Follows (place codec earlier cursor (.item d members))
      (place codec earlier (cursor + 0) (.item d members')) _ :=
    place_follows (r := Node.Unrolls names (size + 1) before) rfl rfl rfl (fun _ _ => rfl) (absurd · hne)
      fun start => hm start
  refine hf.mono ?_
  rintro n n' ⟨item, item', ⟨hname, hitem⟩, h⟩
  have hitem : item' = item := by
    rw [hitem, ←hname]
    rfl
  rcases h with ⟨_, hnil, _⟩ | ⟨length, ns, ns', hn, hn', hns⟩
  case inl => exact absurd hnil hne
  case inr => exact ⟨item, length, ns, ns', hn, hitem ▸ hn', hns⟩

-- What comes after a group does not depend on the members of it.
theorem placeAll_after_group (os : List Outline) (d : Declaration) (item : Item) (length : Nat) (ns ns' : List Node) :
    Follows (placeAll codec (occurring d (.group item length ns) :: earlier)
        (advance cursor d (occurring d (.group item length ns))) os)
      (placeAll codec (occurring d (.group item length ns') :: earlier)
        (advance cursor d (occurring d (.group item length ns'))) os) fun a b => b = a := by
  have hi : (occurring d (.group item length ns')).item = (occurring d (.group item length ns)).item := by
    rw [item_occurring, item_occurring]
    rfl
  have hl : (occurring d (.group item length ns')).length = (occurring d (.group item length ns)).length := by
    unfold occurring
    cases d.occurs <;> rfl
  rw [advance, advance, hl]
  exact placeAll_kept os fun name _ => .cons (fun _ => rfl) (congrArg Item.name hi) (congrArg Item.offset hi)

-- By induction on where the item is: nothing before it changes, what holds it is the same group of other members, and
-- what comes after it does not depend on them.
theorem placeAll_unrolls (h : Outline.Unrolls x names size before os os') (hx : x.occurs = some names.length)
    (hr : x.redefines = none) (hf : ∀ name ∈ names, ∀ d ∈ Outline.flattenAll os, d.redefines ≠ some name)
    (earlier : List Node) (cursor : Nat) :
    Follows (placeAll codec earlier cursor os) (placeAll codec earlier cursor os') fun a b =>
      Node.Unrolls names (size + 1) before a.1 b.1 ∧ b.2 = a.2 := by
  induction h generalizing earlier cursor
  case here members os hs ht =>
    subst hs
    refine placeAll_unrolled hx hr ht fun name h hn => ?_
    obtain ⟨d, hd, hr⟩ := redefines_of_redefined h
    obtain ⟨o, ho, rfl⟩ := List.mem_map.mp hd
    exact hf name hn _ (Outline.mem_flattenAll (List.mem_cons_of_mem _ ho)) hr
  case later before o os os' _ hi =>
    intro ns (_, stop) ns' h ms
    obtain ⟨n, nodes, m, rfl, hn, hns⟩ := placeAll_cases h
    obtain ⟨_, m', hn', rfl⟩ := place_kept o _ _ _ _ _ hn ms
    have hf : ∀ name ∈ names, ∀ d ∈ Outline.flattenAll os, d.redefines ≠ some name :=
      fun name hm d hd => hf name hm d (by simp [Outline.flattenAll, hd])
    obtain ⟨⟨nodes', stop'⟩, m'', hns', hu, hs⟩ := hi hf _ _ _ _ _ hns m'
    refine ⟨(_ :: nodes', stop'), m'', placeAll_yields hn' hns', ?_, hs⟩
    exact length_extents hn ▸ hu.later
  case inside before d ms ms' os hu hi =>
    intro ns (_, stop) ns' h notices
    obtain ⟨n, nodes, m, rfl, hn, hns⟩ := placeAll_cases h
    have hf : ∀ name ∈ names, ∀ d ∈ Outline.flattenAll ms, d.redefines ≠ some name :=
      fun name hm e he => hf name hm e (by simp [Outline.flattenAll, Outline.flatten, he])
    obtain ⟨_, m', hn', item, length, members, members', rfl, rfl, hm⟩ := place_unrolls hu (hi hf []) _ _ _ hn notices
    obtain ⟨_, ms'', hns', rfl⟩ := placeAll_after_group os d item length members members' _ _ _ hns m'
    exact ⟨_, ms'', placeAll_yields hn' hns', hm.inside, rfl⟩

-- A copybook in which an item with occurrences, which redefines nothing and is not redefined, has been unrolled into
-- copies under fresh names lays out the same record. What is outside of the item lies where it did, and what is in
-- one of its occurrences lies where it does in the copy, whatever the indexes of the other arrays are.
theorem occurrences_unrolled {fore held aft : List Declaration} {layout : Layout}
    (hl : (ofDeclarations (fore ++ x :: (held ++ aft)) codec).result = (.ok layout, notices))
    (hx : x.occurs = some names.length) (hr : x.redefines = none) (hh : ∀ d ∈ held, x.level < d.level)
    (ha : ∀ d ∈ aft.head?, d.level ≤ x.level)
    (ht : Declaration.redefined x.name (Declaration.siblings fore x aft) = false)
    (hf : ∀ d ∈ fore ++ x :: (held ++ aft), d.name ∉ names) :
    ∃ layout' notices',
      (ofDeclarations (fore ++ (x.unrolled held names ++ aft)) codec).result = (.ok layout', notices') ∧
      layout'.length = layout.length ∧ layout'.template = layout.template ∧
      let extents := layout.parts.map Part.extent
      let extents' := layout'.parts.map Part.extent
      let size := held.length + 1
      extents'.take fore.length = extents.take fore.length ∧
      extents'.drop (fore.length + names.length * size) = extents.drop (fore.length + size) ∧
      ∃ outer length, ∀ k < names.length, ∀ j < size, ∃ p q inner, extents[fore.length + j]? = some p ∧
        extents'[fore.length + k * size + j]? = some q ∧ p.arrays = outer ++ (names.length, length) :: inner ∧
        q.arrays = outer ++ inner ∧ (j = 0 → inner = []) ∧ q.length = p.length ∧
        ∀ indexes indexes', indexes.length = outer.length →
          q.address (indexes ++ indexes') = p.address (indexes ++ k :: indexes') := by
  have ⟨_, _, hplaced⟩ := ofDeclarations_cases hl
  have hu : Outline.Unrolls x names _ _ _ _ := Outline.ofDeclarations_unrolls hh ha ht
  have hfresh : ∀ name ∈ names, ∀ d ∈ Outline.flattenAll (Outline.ofDeclarations (fore ++ x :: (held ++ aft))),
      d.redefines ≠ some name := by
    intro name hn d hd hr
    rcases placeAll_targets _ hplaced d hd name hr with ⟨_, h, _⟩ | ⟨e, he, h⟩
    · contradiction
    · rw [Outline.flattenAll_ofDeclarations] at he
      exact hf e he (h ▸ hn)
  have ⟨(members, length), ms, hy, hnodes, hlen⟩ := placeAll_unrolls hu hx hr hfresh [] 0 _ _ _ hplaced []
  simp only at hnodes hlen
  refine ⟨⟨length, members, _, codec⟩, ms, hy.seq rfl, hlen, ?_, ?_⟩
  · have hi : initials ⟨length, members, fore ++ (x.unrolled held names ++ aft), codec⟩ = initials layout :=
      hnodes.initials 0
    rw [template, template, hi, hlen]
  · simp only [extents_eq_parts]
    exact (hnodes.extents []).extents

-- `G` is written out as `G1` and `G2`, and the `C` of the latter is the one in the second `G`.
theorem nest_unrolled :
    let record := nest.declarations.take 1
    let g := nest.declarations[1]
    let held := (nest.declarations.drop 2).take 3
    let last := nest.declarations.drop 5
    let names := ["G1".toList, "G2".toList]
    nest.declarations = record ++ g :: (held ++ last) ∧ g.occurs = some 2 ∧ g.redefines = none ∧
      (∀ d ∈ held, g.level < d.level) ∧ (∀ d ∈ last.head?, d.level ≤ g.level) ∧
      Declaration.redefined g.name (Declaration.siblings record g last) = false ∧
      (∀ d ∈ nest.declarations, d.name ∉ names) ∧
      ∃ layout notices, (ofDeclarations (record ++ (g.unrolled held names ++ last)) {}).result = (.ok layout, notices) ∧
        layout.length = 5 ∧ ∃ q, (layout.parts.map Part.extent)[8]? = some q ∧ q.address [] = 2 := by
  intro record g held last names
  have hh : ∀ d ∈ held, g.level < d.level := by decide
  have ha : ∀ d ∈ last.head?, d.level ≤ g.level := by simp [last, g, nest]
  have ht : Declaration.redefined g.name (Declaration.siblings record g last) = false := by cbv
  have hf : ∀ d ∈ nest.declarations, d.name ∉ names := by decide
  have hc : (ofDeclarations (record ++ g :: (held ++ last)) {}).result = (.ok nest, []) := nest_compiles
  have ho : g.occurs = some names.length := rfl
  obtain ⟨layout, notices, hy, hl, _, _, _, outer, length, hu⟩ := occurrences_unrolled hc ho rfl hh ha ht hf
  obtain ⟨p, q, inner, hp, hq, hpa, hqa, _, _, haddr⟩ := hu 1 (by decide) 3 (by decide)
  refine ⟨rfl, rfl, rfl, hh, ha, ht, hf, layout, notices, hy, hl, q, hq, ?_⟩
  have he : p = ⟨0, 1, [(2, 2)]⟩ := Option.some.inj (hp.symm.trans rfl)
  rw [he] at hpa haddr
  cases outer
  case nil => exact haddr [] [] rfl
  case cons => simp at hpa

end Layout
end Copybook
