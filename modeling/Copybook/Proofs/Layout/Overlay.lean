import Copybook.Proofs.Layout.Walk

/-!
The bytes of a fresh record, one by one. Values may be longer than their items, start past the end of the record and
reach over each other: each byte is that of the last value in the order of the walk that reaches it.
-/

namespace Copybook
namespace Layout

-- The positions that a value is written to.
def Covers (w : Nat × Bytes) (i : Nat) : Prop :=
  w.1 ≤ i ∧ i < w.1 + w.2.length

instance (w : Nat × Bytes) (i : Nat) : Decidable (Covers w i) :=
  inferInstanceAs (Decidable (_ ∧ _))

section Stamp

variable {b : Bytes} {length i : Nat}

theorem length_le_stamp (b : Bytes) (w : Nat × Bytes) : b.length ≤ (stamp b w).length := by
  simp only [stamp, Bytes.splice, List.length_append, List.length_take, List.length_drop]
  omega

-- What starts past the end is added there, so that no byte of the record moves.
theorem getElem?_stamp (hi : i < b.length) (w : Nat × Bytes) :
    (stamp b w)[i]? = if Covers w i then w.2[i - w.1]? else b[i]? := by
  by_cases hw : w.1 ≤ b.length
  case pos => exact Bytes.getElem?_splice_of_le rfl hw i
  case neg =>
    have hb : b.take w.1 = b := List.take_of_length_le (by omega)
    rw [if_neg fun hc => hw (hc.left.trans hi.le), stamp, Bytes.splice, hb, List.append_assoc,
      List.getElem?_append_left hi]

theorem length_le_foldl_stamp (b : Bytes) (ws : List (Nat × Bytes)) : b.length ≤ (ws.foldl stamp b).length := by
  induction ws generalizing b
  case nil => exact Nat.le_refl _
  case cons w ws hi => exact (length_le_stamp b w).trans (hi (stamp b w))

-- Of values written in ascending order, the last one that covers a position is seen there. The induction is on the last
-- of them: it covers the position, or it neither changes the byte nor comes into question.
theorem getElem?_foldl_stamp {es : List (List Nat × Nat × Bytes)} (hs : es.Pairwise fun e e' => e.1 < e'.1)
    (hi : i < b.length) :
    (∃ e ∈ es, Covers e.2 i ∧ (∀ e' ∈ es, e.1 < e'.1 → ¬Covers e'.2 i) ∧
        ((es.map (·.2)).foldl stamp b)[i]? = e.2.2[i - e.2.1]?) ∨
      (∀ e ∈ es, ¬Covers e.2 i) ∧ ((es.map (·.2)).foldl stamp b)[i]? = b[i]? := by
  induction es using List.reverseRecOn
  case nil => exact .inr ⟨nofun, rfl⟩
  case append_singleton es e ih =>
    have ⟨hes, _, hlt⟩ := List.pairwise_append.mp hs
    have hlast : ((es ++ [e]).map (·.2)).foldl stamp b = stamp ((es.map (·.2)).foldl stamp b) e.2 := by
      rw [List.map_append, List.foldl_append]
      rfl
    rw [hlast, getElem?_stamp (hi.trans_le (length_le_foldl_stamp b _))]
    by_cases hc : Covers e.2 i
    case pos =>
      refine .inl ⟨e, by simp, hc, fun e' he' hlt' => ?_, if_pos hc⟩
      rcases List.mem_append.mp he' with he' | he'
      · exact absurd hlt' (List.lt_asymm (hlt e' he' e (by simp)))
      · rw [List.mem_singleton.mp he'] at hlt'
        exact absurd hlt' (List.lt_irrefl _)
    case neg =>
      rw [if_neg hc]
      rcases ih hes with ⟨w, hw, hcw, hlater, hb⟩ | ⟨hnone, hb⟩
      · refine .inl ⟨w, by simp [hw], hcw, List.forall_mem_append.mpr ⟨hlater, ?_⟩, hb⟩
        exact List.forall_mem_singleton.mpr fun _ => hc
      · exact .inr ⟨List.forall_mem_append.mpr ⟨hnone, List.forall_mem_singleton.mpr hc⟩, hb⟩

end Stamp

variable (layout : Layout)

-- The value of the field or group at a position of the record, if it has one, and where it is written.
def initialAt? (position : List Nat) : Option (Nat × Bytes) :=
  (layout.root.part? 0 position).bind Lineage.value?

-- The values of the record with their positions, in the order in which they are written.
def placed : List (List Nat × Nat × Bytes) :=
  (layout.root.walk 0).filterMap fun e => (Lineage.value? e.2).map (e.1, ·)

theorem map_placed : layout.placed.map (·.2) = layout.initials := by
  change _ = (layout.root.occurrences 0).filterMap Lineage.value?
  rw [placed, List.map_filterMap, ←Node.map_walk, List.filterMap_map]
  congr 1
  funext e
  simp [Option.map_map, Function.comp_def]

theorem sorted_placed : layout.placed.Pairwise fun e e' => e.1 < e'.1 := by
  refine (Node.sorted_walk layout.root 0).filterMap _ fun e e' hlt p hp p' hp' => ?_
  have ⟨_, _, hp⟩ := Option.map_eq_some_iff.mp hp
  have ⟨_, _, hp'⟩ := Option.map_eq_some_iff.mp hp'
  rw [←hp, ←hp']
  exact hlt

theorem mem_placed {position : List Nat} {w : Nat × Bytes} :
    (position, w) ∈ layout.placed ↔ layout.initialAt? position = some w := by
  rw [placed, initialAt?, List.mem_filterMap, Option.bind_eq_some_iff]
  constructor
  case mp =>
    rintro ⟨⟨position', t⟩, ht, hw⟩
    have ⟨w', hw', he⟩ := Option.map_eq_some_iff.mp hw
    cases he
    exact ⟨t, (Node.mem_walk _).mp ht, hw'⟩
  case mpr =>
    rintro ⟨t, ht, hw⟩
    exact ⟨(position, t), (Node.mem_walk _).mpr ht, by simp [hw]⟩

-- A value is on top at a byte of the record if it covers the byte, and no value that comes later in the walk does.
structure OnTop (i : Nat) (position : List Nat) (w : Nat × Bytes) : Prop where
  value : layout.initialAt? position = some w
  covers : Covers w i
  last : ∀ later w', position < later → layout.initialAt? later = some w' → ¬Covers w' i

variable {layout}

theorem OnTop.unique {i : Nat} {position position' : List Nat} {w w' : Nat × Bytes} (h : layout.OnTop i position w)
    (h' : layout.OnTop i position' w') : w = w' := by
  rcases lt_trichotomy position position' with hlt | rfl | hlt
  · exact absurd h'.covers (h.last position' w' hlt h'.value)
  · exact Option.some.inj (h.value.symm.trans h'.value)
  · exact absurd h.covers (h'.last position w hlt h.value)

-- A fresh record has as many bytes as its layout, whatever the values of its items are, how long they are and where
-- they start. Each byte is that of the value on top of it, and a low value if no value covers it.
theorem template_overlay (layout : Layout) : layout.template.length = layout.length ∧ ∀ i < layout.length,
    (∃ position w, layout.OnTop i position w ∧ layout.template[i]? = w.2[i - w.1]?) ∨
      (∀ position w, layout.initialAt? position = some w → ¬Covers w i) ∧ layout.template[i]? = some 0 := by
  have hlength : (List.replicate layout.length (0 : UInt8)).length = layout.length := List.length_replicate
  refine ⟨?_, fun i hi => ?_⟩
  · have := length_le_foldl_stamp (List.replicate layout.length 0) layout.initials
    rw [template, List.length_take]
    omega
  · rw [template, List.getElem?_take_of_lt hi, ←map_placed]
    rcases getElem?_foldl_stamp layout.sorted_placed (hlength.symm ▸ hi) with ⟨e, he, hc, hlast, hb⟩ | ⟨hnone, hb⟩
    · refine .inl ⟨e.1, e.2, ⟨layout.mem_placed.mp he, hc, fun later w' hlt hw' => ?_⟩, hb⟩
      exact hlast (later, w') (layout.mem_placed.mpr hw') hlt
    · refine .inr ⟨fun position w hw => hnone (position, w) (layout.mem_placed.mpr hw), ?_⟩
      rw [hb, List.getElem?_replicate, if_pos hi]

-- The layout of `01 R. 05 A PIC X(3) VALUE 'A'. 05 B PIC X(2). 05 C REDEFINES B. 10 D PIC X(3) OCCURS 2 VALUE 'D'.`
-- with two bytes to a character: the literals take four bytes each.
def overlong : Layout where
  length := 5
  members := [.group ⟨"R".toList, 0, none, none, none⟩ 5 [
    .field ⟨"A".toList, 0, none, some "'A'".toList, some [65, 0, 32, 0]⟩ (.text 3 false),
    .field ⟨"B".toList, 3, none, none, none⟩ (.text 2 false),
    .group ⟨"C".toList, 3, some "B".toList, none, none⟩ 6 [
      .array 2 (.field ⟨"D".toList, 3, none, some "'D'".toList, some [68, 0, 32, 0]⟩ (.text 3 false))]]]
  declarations := [
    ⟨1, "R".toList, none, none, none, none, none, none, none, "01 R".toList⟩,
    ⟨5, "A".toList, some "X(3)".toList, none, none, some "'A'".toList, some "R".toList, none, none,
      "05 A PIC X(3) VALUE 'A'".toList⟩,
    ⟨5, "B".toList, some "X(2)".toList, none, none, none, some "R".toList, none, none, "05 B PIC X(2)".toList⟩,
    ⟨5, "C".toList, none, none, some "B".toList, none, some "R".toList, none, none, "05 C REDEFINES B".toList⟩,
    ⟨10, "D".toList, some "X(3)".toList, some 2, none, some "'D'".toList, some "C".toList, none, some "C".toList,
      "10 D PIC X(3) OCCURS 2 VALUE 'D'".toList⟩]
  codec := { page := "utf-16-le".toList }

-- The value of `A` reaches into that of the first `D`, which reaches past the end; the second `D` starts there.
theorem overlong_template : overlong.IsCompiled ∧ overlong.template.length = 5 ∧
    overlong.OnTop 2 [0, 0] (0, [65, 0, 32, 0]) ∧ overlong.template[2]? = some 32 ∧
    overlong.OnTop 3 [0, 2, 0, 0] (3, [68, 0, 32, 0]) ∧ overlong.template[3]? = some 68 := by
  have hc : overlong.IsCompiled :=
    ⟨[.longerRedefinition "C".toList "B".toList 6 2], by with_unfolding_all rfl⟩
  have top {i : Nat} {position : List Nat} {w : Nat × Bytes} (hv : overlong.initialAt? position = some w)
      (hw : Covers w i) (hl : ∀ e ∈ overlong.placed, position < e.1 → ¬Covers e.2 i) : overlong.OnTop i position w :=
    ⟨hv, hw, fun later w' hlt hw' => hl (later, w') (overlong.mem_placed.mpr hw') hlt⟩
  have h2 : overlong.OnTop 2 [0, 0] (0, [65, 0, 32, 0]) := top rfl (by decide) (by decide)
  have h3 : overlong.OnTop 3 [0, 2, 0, 0] (3, [68, 0, 32, 0]) := top rfl (by decide) (by decide)
  obtain ⟨hlength, hbytes⟩ := template_overlay overlong
  have shown {i : Nat} {position : List Nat} {w : Nat × Bytes} (hi : i < overlong.length)
      (h : overlong.OnTop i position w) : overlong.template[i]? = w.2[i - w.1]? := by
    rcases hbytes i hi with ⟨position', w', h', hb⟩ | ⟨hnone, _⟩
    · rw [h.unique h', hb]
    · exact absurd h.covers (hnone position w h.value)
  exact ⟨hc, hlength, h2, shown (by decide) h2, h3, shown (by decide) h3⟩

end Layout
end Copybook
