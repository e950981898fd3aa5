import Copybook.Proofs.Bytes
import Copybook.Proofs.Layout.Lineage

/-!
What the fields of a fresh record hold. Values are written in the order of the walk, a group before what it holds, so
the last one that reaches a field is that of the field itself or else that of the innermost group around it.
-/

namespace Copybook

open Bytes (slice)

namespace Bytes

variable {b b' : Bytes} {start stop : Nat}

theorem slice_congr (h : ∀ i, start ≤ i → i < stop → b[i]? = b'[i]?) : slice b start stop = slice b' start stop := by
  refine List.ext_getElem? fun i => ?_
  rw [getElem?_slice, getElem?_slice]
  split
  · exact h _ (by omega) (by omega)
  · rfl

theorem slice_replicate (byte : UInt8) {length : Nat} (h : stop ≤ length) :
    slice (List.replicate length byte) start stop = List.replicate (stop - start) byte := by
  rw [slice, List.drop_replicate, List.take_replicate]
  congr 1
  omega

-- A slice of bytes that have been written at some place.
theorem slice_of_written {v : Bytes} {origin : Nat} (hs : origin ≤ start) (hl : stop ≤ origin + v.length)
    (h : ∀ i, origin ≤ i → i < origin + v.length → b[i]? = v[i - origin]?) :
    slice b start stop = slice v (start - origin) (stop - origin) := by
  refine List.ext_getElem? fun i => ?_
  rw [getElem?_slice, getElem?_slice, show stop - origin - (start - origin) = stop - start by omega]
  split
  · rw [h _ (by omega) (by omega)]
    congr 1
    omega
  · rfl

end Bytes

namespace Node

@[simp]
theorem initials_append (a b : List (Node × Nat)) : initials (a ++ b) = initials a ++ initials b :=
  List.filterMap_append

@[simp]
theorem initials_flatMap (ks : List Nat) (f : Nat → List (Node × Nat)) :
    initials (ks.flatMap f) = ks.flatMap fun k => initials (f k) :=
  List.filterMap_flatMap

theorem initials_cons (n : Node) (shift : Nat) (rest : List (Node × Nat)) :
    initials ((n, shift) :: rest) = (n.item.initial.map fun b => (n.offset + shift, b)).toList ++ initials rest := by
  simp only [initials, List.filterMap_cons]
  cases n.item.initial <;> rfl

theorem initials_singleton (t : Node × Nat) : initials [t] = (Lineage.value? t).toList := by
  change [t].filterMap Lineage.value? = _
  cases h : Lineage.value? t <;> simp [h]

-- Values have the bytes of their items, and no redefinition has any.
structure Stampable (root : Node) : Prop where
  sized : ∀ n, root.Within n → ∀ v, n.item.initial = some v → v.length = n.storage.length
  redefining : ∀ r, root.Within r → r.item.redefines.isSome → ∀ n, r.Within n → n.item.initial = none

theorem Stampable.within {root n : Node} (h : root.Stampable) (hn : root.Within n) : n.Stampable :=
  ⟨fun m hm => h.sized m (hn.trans hm), fun r hr => h.redefining r (hn.trans hr)⟩

-- Values of an item that starts at the cursor lie over its first occurrence.
theorem Stampable.value {root n : Node} (h : root.Stampable) (hn : root.Within n) {cursor : Nat}
    (ho : n.offset = cursor) (hl : n.storage.length = n.length) (shift : Nat) :
    Lineage.Spans (n, shift) (cursor + shift) (cursor + n.length + shift) := by
  intro origin v hv
  have ⟨v', hi, hv⟩ := Option.map_eq_some_iff.mp hv
  cases hv
  have := h.sized n hn v hi
  exact ⟨congrArg (· + shift) ho, by omega⟩

mutual

theorem within_of_occurrences (n : Node) {shift : Nat} {t : Node × Nat} (h : t ∈ n.occurrences shift) :
    n.Within t.1 := by
  cases n <;> simp only [occurrences] at h
  case field =>
    rw [List.mem_singleton.mp h]
    exact .root
  case group item length members =>
    rcases List.mem_cons.mp h with h | h
    · rw [h]
      exact .root
    · have ⟨m, hm, h⟩ := within_of_occurrencesAll members h
      exact (Within.root.member hm).trans h
  case array count element =>
    have ⟨k, _, h⟩ := List.mem_flatMap.mp h
    exact Within.root.element.trans (within_of_occurrences element h)

theorem within_of_occurrencesAll (ns : List Node) {shift : Nat} {t : Node × Nat} (h : t ∈ occurrencesAll shift ns) :
    ∃ n ∈ ns, n.Within t.1 := by
  cases ns
  case nil => contradiction
  case cons n ns =>
    rw [occurrencesAll] at h
    rcases List.mem_append.mp h with h | h
    · exact ⟨n, by simp, within_of_occurrences n h⟩
    · have ⟨m, hm, h⟩ := within_of_occurrencesAll ns h
      exact ⟨m, by simp [hm], h⟩

end

end Node

-- What has been written fills a span: it stays within, the fields that lie there hold what their lineages say, and the
-- groups around a field are around its bytes.
structure Fills (start stop : Nat) (writes : List (Nat × Bytes)) (ls : List Lineage) : Prop where
  length : ∀ b : Bytes, stop ≤ b.length → (writes.foldl Layout.stamp b).length = b.length
  frame : ∀ b : Bytes, stop ≤ b.length → ∀ i, ¬(start ≤ i ∧ i < stop) → (writes.foldl Layout.stamp b)[i]? = b[i]?
  within : ∀ l ∈ ls, start ≤ l.start ∧ l.stop ≤ stop
  around : ∀ l ∈ ls, ∀ g ∈ l.around, Lineage.first g ≤ l.start ∧ l.stop ≤ Lineage.first g + g.1.length
  held : ∀ b : Bytes, stop ≤ b.length → ∀ l ∈ ls, slice (writes.foldl Layout.stamp b) l.start l.stop = l.held b

namespace Fills

variable {start mid stop : Nat} {writes writes' : List (Nat × Bytes)} {ls ls' : List Lineage}

theorem nil (start stop : Nat) : Fills start stop [] [] :=
  ⟨fun _ _ => rfl, fun _ _ _ _ => rfl, nofun, nofun, nofun⟩

theorem held_congr {l : Lineage} {b b' : Bytes} (h : ∀ i, l.start ≤ i → i < l.stop → b[i]? = b'[i]?) :
    l.held b = l.held b' := by
  rw [Lineage.held, Lineage.held]
  cases l.source?
  case none => exact Bytes.slice_congr h
  case some => rfl

-- Spans one after another are filled by what fills each of them.
theorem append (h : Fills start mid writes ls) (h' : Fills mid stop writes' ls') (hm : start ≤ mid) (hs : mid ≤ stop) :
    Fills start stop (writes ++ writes') (ls ++ ls') := by
  have hl {b : Bytes} (hb : stop ≤ b.length) : stop ≤ (writes.foldl Layout.stamp b).length :=
    (h.length b (by omega)).symm ▸ hb
  refine ⟨fun b hb => ?_, fun b hb i hi => ?_, fun l hm => ?_, List.forall_mem_append.mpr ⟨h.around, h'.around⟩,
    fun b hb l hm => ?_⟩
  · rw [List.foldl_append, h'.length _ (hl hb), h.length b (by omega)]
  · rw [List.foldl_append, h'.frame _ (hl hb) i (by omega), h.frame b (by omega) i (by omega)]
  · rcases List.mem_append.mp hm with hm | hm
    · have := h.within l hm
      omega
    · have := h'.within l hm
      omega
  · rw [List.foldl_append]
    rcases List.mem_append.mp hm with hm | hm
    · have := h.within l hm
      rw [←h.held b (by omega) l hm]
      exact Bytes.slice_congr fun i _ _ => h'.frame _ (hl hb) i (by omega)
    · have := h'.within l hm
      rw [h'.held _ (hl hb) l hm]
      exact held_congr fun i _ _ => h.frame b (by omega) i (by omega)

section Value

variable {t : Node × Nat} {b : Bytes} (hb : stop ≤ b.length) (hv : Lineage.Spans t start stop)

include hb hv

theorem length_stamped : ((Node.initials [t]).foldl Layout.stamp b).length = b.length := by
  rw [Node.initials_singleton]
  cases ht : Lineage.value? t
  case none => rfl
  case some value =>
    obtain ⟨rfl, rfl⟩ := hv _ _ ht
    exact Bytes.length_splice hb

theorem getElem?_stamped {i : Nat} (hi : ¬(start ≤ i ∧ i < stop)) :
    ((Node.initials [t]).foldl Layout.stamp b)[i]? = b[i]? := by
  rw [Node.initials_singleton]
  cases ht : Lineage.value? t
  case none => rfl
  case some value =>
    obtain ⟨rfl, rfl⟩ := hv _ _ ht
    exact (Bytes.getElem?_splice rfl hb i).trans (if_neg hi)

theorem slice_stamped {start' stop' : Nat} (hs : start ≤ start') (hs' : stop' ≤ stop) :
    slice ((Node.initials [t]).foldl Layout.stamp b) start' stop' =
      Lineage.shown b start' stop' (Lineage.value? t) := by
  rw [Node.initials_singleton]
  cases ht : Lineage.value? t
  case none => rfl
  case some value =>
    obtain ⟨rfl, rfl⟩ := hv _ _ ht
    exact Bytes.slice_of_written hs hs' fun i hi hi' => (Bytes.getElem?_splice rfl hb i).trans (if_pos ⟨hi, hi'⟩)

end Value

variable {t : Node × Nat}

-- A group is filled by what fills its members, after the value that it has itself.
theorem under (hv : Lineage.Spans t start stop)
    (hs : Lineage.first t = start) (hl : start + t.1.length = stop) (h : Fills start stop writes ls) :
    Fills start stop (Node.initials [t] ++ writes) (ls.map (·.under t)) := by
  have hb' {b : Bytes} (hb : stop ≤ b.length) : stop ≤ ((Node.initials [t]).foldl Layout.stamp b).length :=
    (length_stamped hb hv).symm ▸ hb
  refine ⟨fun b hb => ?_, fun b hb i hi => ?_, List.forall_mem_map.mpr h.within,
    List.forall_mem_map.mpr fun l hm => List.forall_mem_append.mpr ⟨h.around l hm, ?_⟩,
    fun b hb => List.forall_mem_map.mpr fun l hm => ?_⟩
  · rw [List.foldl_append, h.length _ (hb' hb), length_stamped hb hv]
  · rw [List.foldl_append, h.frame _ (hb' hb) i hi, getElem?_stamped hb hv hi]
  · rw [List.forall_mem_singleton, hs, hl]
    exact h.within l hm
  · have ⟨hs, he⟩ := h.within l hm
    rw [List.foldl_append]
    refine (h.held _ (hb' hb) l hm).trans ?_
    rw [Lineage.held, Lineage.held, Lineage.source?_under]
    cases l.source?
    case none => exact slice_stamped hb hv hs he
    case some => rfl

-- A field is filled by the value that it has itself.
theorem field (hv : Lineage.Spans t start stop)
    (hs : Lineage.first t = start) (hl : start + t.1.length = stop) :
    Fills start stop (Node.initials [t]) [⟨t, []⟩] := by
  have hstart : (⟨t, []⟩ : Lineage).start = start := hs
  have hstop : (⟨t, []⟩ : Lineage).stop = stop := by
    rw [Lineage.stop, hstart, hl]
  refine ⟨fun b hb => length_stamped hb hv, fun b hb i hi => getElem?_stamped hb hv hi, ?_, ?_, fun b hb => ?_⟩ <;>
    rw [List.forall_mem_singleton]
  · exact ⟨hstart.ge, hstop.le⟩
  · exact nofun
  · rw [slice_stamped hb hv hstart.ge hstop.le, Lineage.held, Lineage.source?]
    simp

-- Spans of one length, one after another, are filled by what fills each of them.
theorem repeated {f : Nat → List (Nat × Bytes)} {g : Nat → List Lineage} {length : Nat}
    (h : ∀ k, Fills (start + k * length) (start + (k + 1) * length) (f k) (g k)) (count : Nat) :
    Fills start (start + count * length) ((List.range count).flatMap f) ((List.range count).flatMap g) := by
  induction count
  case zero => exact nil _ _
  case succ count hi =>
    simp only [List.range_succ, List.flatMap_append, List.flatMap_singleton]
    exact hi.append (h count) (by omega) (by rw [Nat.add_mul]; omega)

end Fills

namespace Node

mutual

theorem Laid.fills (n : Node) {earlier : List Node} {cursor : Nat} (h : n.Laid earlier cursor) (hs : n.Stampable)
    (shift : Nat) :
    Fills (cursor + shift) (n.next cursor + shift) (initials (n.occurrences shift)) (n.lineages shift) := by
  cases hr : n.item.redefines
  case some name =>
    have hi : initials (n.occurrences shift) = [] :=
      List.filterMap_eq_nil_iff.mpr fun t ht => by
        simp [hs.redefining n .root (by simp [hr]) t.1 (within_of_occurrences n ht)]
    rw [hi, lineages_of_redefines n hr]
    exact .nil _ _
  case none =>
    rw [next_of_none hr]
    cases n
    case field item type =>
      have ho : item.offset = cursor := h.starts.offset hr
      have hv := hs.value .root ho rfl shift
      simp only [occurrences, lineages, show item.redefines = none from hr]
      exact .field hv (congrArg (· + shift) ho) (Nat.add_right_comm ..)
    case group item length members =>
      have ho : item.offset = cursor := h.starts.offset hr
      have hv := hs.value .root ho rfl shift
      rw [Laid, ho] at h
      have hm := LaidAll.fills members h.right (fun n hn => hs.within (.member .root hn)) shift
      rw [occurrences, ←List.singleton_append, initials_append, lineages, show item.redefines = none from hr]
      exact hm.under hv (congrArg (· + shift) ho) (Nat.add_right_comm ..)
    case array count element =>
      rw [Laid] at h
      have hn : element.next cursor = cursor + element.length := next_of_none hr
      have hf (k : Nat) := Laid.fills element h (hs.within (.element .root)) (shift + k * element.length)
      have hstart (k : Nat) : cursor + (shift + k * element.length) = cursor + shift + k * element.length := by omega
      have hstop (k : Nat) : element.next cursor + (shift + k * element.length) =
          cursor + shift + (k + 1) * element.length := by
        rw [hn, Nat.add_mul]
        omega
      simp only [hstart, hstop] at hf
      rw [occurrences, lineages, initials_flatMap, Nat.add_right_comm]
      exact .repeated hf count

theorem LaidAll.fills (ns : List Node) {earlier : List Node} {cursor stop : Nat} (h : LaidAll earlier cursor stop ns)
    (hs : ∀ n ∈ ns, n.Stampable) (shift : Nat) :
    Fills (cursor + shift) (stop + shift) (initials (occurrencesAll shift ns)) (lineagesAll shift ns) := by
  cases ns <;> simp only [LaidAll] at h
  case nil =>
    rw [h]
    exact .nil _ _
  case cons n ns =>
    have ⟨hn, hns⟩ := List.forall_mem_cons.mp hs
    have hc : cursor ≤ n.next cursor := by
      unfold next
      split <;> omega
    rw [occurrencesAll, lineagesAll, initials_append]
    exact (Laid.fills n h.left hn shift).append (LaidAll.fills ns h.right hns shift) (Nat.add_le_add_right hc _)
      (Nat.add_le_add_right h.right.le _)

end

end Node

namespace Layout

variable {layout : Layout}

namespace IsCompiled

variable {l : Lineage} (h : layout.IsCompiled) (hs : layout.root.Stampable)

include h hs

-- All bytes of a fresh record are those that its fields hold by their lineages.
theorem fills : Fills 0 layout.length layout.initials layout.lineages := by
  have hf := Node.Laid.fills layout.root h.laid hs 0
  rwa [Node.next_of_none rfl, Nat.zero_add, Nat.zero_add] at hf

theorem template_eq : layout.template = layout.initials.foldl stamp (List.replicate layout.length 0) := by
  rw [template, List.take_of_length_le]
  rw [(h.fills hs).length _ (by simp), List.length_replicate]

theorem length_template : layout.template.length = layout.length := by
  rw [h.template_eq hs, (h.fills hs).length _ (by simp), List.length_replicate]

-- What a field has in a fresh record comes from the innermost item with a literal.
theorem slice_template (hm : l ∈ layout.lineages) {source : Option (Nat × Bytes)}
    (ho : ((l.field :: l.around).find? Lineage.hasLiteral).bind Lineage.value? = source) :
    slice layout.template l.start l.stop = Lineage.shown (List.replicate layout.length 0) l.start l.stop source := by
  have hl : l.source? = source := (Lineage.findSome?_value? fun t ht =>
    (h.carriesLiteral <| (layout.root.isIn_of_lineages hm).within t ht).isSome).trans ho
  rw [h.template_eq hs, (h.fills hs).held _ (by simp) l hm, Lineage.held, hl]

theorem value_of_literal {t : Node × Nat} (ht : layout.root.Within t.1) {literal : Text}
    (hv : t.1.item.value = some literal) :
    ∃ b, Lineage.value? t = some (Lineage.first t, b) ∧
      Initial.encode literal t.1.storage t.1.storage.length layout.codec = .ok b ∧ b.length = t.1.storage.length := by
  have ⟨b, hb, he⟩ := (h.carriesLiteral ht).encode hv
  exact ⟨b, by simp [Lineage.value?, hb], he, hs.sized _ ht b hb⟩

theorem shows (hm : l ∈ layout.lineages) :
    l.Shows layout.codec (slice layout.template l.start l.stop) := by
  have hi := layout.root.isIn_of_lineages hm
  refine ⟨fun literal hv => ?_, fun hv g hg => ?_, fun hv hg => ?_⟩
  · obtain ⟨b, hb, he, hl⟩ := h.value_of_literal hs (hi.within _ (List.mem_cons_self ..)) hv
    obtain ⟨item, type, ht⟩ := hi.field
    have hlen : l.field.1.storage.length = l.field.1.length := by
      rw [ht]
      rfl
    have ho : ((l.field :: l.around).find? Lineage.hasLiteral).bind Lineage.value? = some (l.start, b) := by
      rw [List.find?_cons_of_pos (by simp [Lineage.hasLiteral, hv])]
      exact hb
    rw [hlen] at he hl
    rw [h.slice_template hs hm ho, he, Lineage.shown, Lineage.stop, ←hl]
    simp [slice]
  · have hg' := List.mem_of_find?_eq_some hg
    have hlit : Lineage.hasLiteral g := List.find?_some hg
    obtain ⟨literal, hv'⟩ := Option.isSome_iff_exists.mp hlit
    obtain ⟨b, hb, he, hl⟩ := h.value_of_literal hs (hi.within g (List.mem_cons_of_mem _ hg')) hv'
    obtain ⟨item, length, members, ht⟩ := hi.around g hg'
    have hstorage : g.1.storage = .text g.1.length false := by
      rw [ht]
      rfl
    have ho : ((l.field :: l.around).find? Lineage.hasLiteral).bind Lineage.value? = some (Lineage.first g, b) := by
      rw [List.find?_cons_of_neg (by simp [Lineage.hasLiteral, hv]), hg]
      exact hb
    obtain ⟨hstart, hstop⟩ := (h.fills hs).around l hm g hg'
    rw [hstorage] at he hl
    exact ⟨literal, b, hv', he, hl, hstart, hstop, h.slice_template hs hm ho⟩
  · obtain ⟨_, hstop⟩ := (h.fills hs).within l hm
    have ho : ((l.field :: l.around).find? Lineage.hasLiteral).bind Lineage.value? = none := by
      rw [List.find?_cons_of_neg (by simp [Lineage.hasLiteral, hv]), hg]
      rfl
    rw [h.slice_template hs hm ho, Lineage.shown, Bytes.slice_replicate 0 hstop, Lineage.stop,
      Nat.add_sub_cancel_left]

end IsCompiled
end Layout
end Copybook
