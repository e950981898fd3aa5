import Copybook.Proofs.Layout.Placement

/-!
The fields of a compiled record that do not lie over other parts of it tile the record: no byte is left out and
none is in two of them.
-/

namespace Copybook

-- The positions from `start` up to `stop`.
def between (start stop i : Nat) : Bool :=
  start ≤ i && i < stop

theorem between_self (start i : Nat) : between start start i = false := by
  simp [between]

theorem between_append {a b c : Nat} (hab : a ≤ b) (hbc : b ≤ c) (i : Nat) :
    (between a b i).toNat + (between b c i).toNat = (between a c i).toNat := by
  unfold between
  by_cases ha : a ≤ i
  case neg => simp [ha, show ¬b ≤ i by omega]
  case pos =>
    by_cases hb : b ≤ i
    case pos => simp [ha, hb, show ¬i < b by omega]
    case neg => simp [ha, hb, show i < b by omega, show i < c by omega]

-- Spans of one length, each at the end of the one before it.
theorem between_repeat (start length count i : Nat) :
    ((List.range count).map fun k => (between (start + k * length) (start + k * length + length) i).toNat).sum =
      (between start (start + count * length) i).toNat := by
  induction count
  case zero => simp [between_self]
  case succ count hi =>
    have hs : start + (count + 1) * length = start + count * length + length := by
      rw [Nat.add_mul, Nat.one_mul, Nat.add_assoc]
    rw [List.range_succ, List.map_append, List.sum_append, hi, hs]
    simpa using between_append (by omega) (by omega) i

namespace Node

-- Whether a position lies in the occurrence of a node that is `shift` bytes from its first one.
def covers (i : Nat) : Node × Nat → Bool
  | (n, shift) => between (n.offset + shift) (n.offset + shift + n.length) i

mutual

-- All occurrences of the fields in a node that neither redefine anything nor are part of something that does.
def tiles (shift : Nat) : Node → List (Node × Nat)
  | field item type => if item.redefines.isSome then [] else [(field item type, shift)]
  | group item _ members => if item.redefines.isSome then [] else tilesAll shift members
  | array count element =>
    (List.range count).flatMap fun k => element.tiles (shift + k * element.length)

def tilesAll (shift : Nat) : List Node → List (Node × Nat)
  | [] => []
  | n :: ns => n.tiles shift ++ tilesAll shift ns

end

mutual

theorem tiles_sublist (n : Node) (shift : Nat) : (n.tiles shift).Sublist (n.occurrences shift) := by
  cases n <;> simp only [tiles, occurrences]
  case field => split <;> simp
  case group item length members =>
    split
    case isTrue => simp
    case isFalse => exact (tilesAll_sublist members shift).cons _
  case array count element =>
    induction List.range count
    case nil => exact .refl _
    case cons k ks hi =>
      rw [List.flatMap_cons, List.flatMap_cons]
      exact (tiles_sublist element _).append hi

theorem tilesAll_sublist (ns : List Node) (shift : Nat) :
    (tilesAll shift ns).Sublist (occurrencesAll shift ns) := by
  cases ns <;> simp only [tilesAll, occurrencesAll]
  case nil => exact .refl _
  case cons n ns => exact (tiles_sublist n shift).append (tilesAll_sublist ns shift)

end

theorem tiles_of_redefines (n : Node) {name : Text} (h : n.item.redefines = some name) (shift : Nat) :
    n.tiles shift = [] := by
  cases n <;> simp only [tiles] <;> simp only [item] at h
  case field => simp [h]
  case group => simp [h]
  case array count element => simp [tiles_of_redefines element h]

theorem Starts.offset {earlier : List Node} {cursor : Nat} {item : Item} (h : Starts earlier cursor item)
    (hr : item.redefines = none) : item.offset = cursor := by
  simpa [Starts, hr] using h

theorem Laid.starts {earlier : List Node} {cursor : Nat} (n : Node) (h : n.Laid earlier cursor) :
    Starts earlier cursor n.item := by
  cases n <;> simp only [Laid] at h
  case field => exact h
  case group => exact h.left
  case array count element => exact Laid.starts element h

mutual

-- The occurrences of the fields in a node cover each of its bytes once and no other one.
theorem Laid.count_tiles (n : Node) {earlier : List Node} {cursor : Nat} (h : n.Laid earlier cursor)
    (hr : n.item.redefines = none) (shift i : Nat) :
    (n.tiles shift).countP (covers i) = (covers i (n, shift)).toNat := by
  cases n <;> simp only [tiles] <;> simp only [item, Laid] at hr h
  case field item type =>
    rw [hr]
    simp only [Option.isSome_none, Bool.false_eq_true, if_false, List.countP_singleton]
    split <;> simp_all
  case group item length members =>
    rw [hr]
    simp only [Option.isSome_none, Bool.false_eq_true, if_false]
    rw [LaidAll.count_tiles members h.right, Nat.add_right_comm]
    rfl
  case array count element =>
    have he (k : Nat) : (element.tiles (shift + k * element.length)).countP (covers i) =
        (between (element.offset + shift + k * element.length)
          (element.offset + shift + k * element.length + element.length) i).toNat := by
      rw [Laid.count_tiles element h hr, covers, ←Nat.add_assoc]
    simp only [List.countP_flatMap, Function.comp_def, he]
    exact between_repeat _ _ count i

theorem LaidAll.count_tiles (ns : List Node) {earlier : List Node} {cursor stop : Nat}
    (h : LaidAll earlier cursor stop ns) (shift i : Nat) :
    (tilesAll shift ns).countP (covers i) = (between (cursor + shift) (stop + shift) i).toNat := by
  cases ns <;> simp only [LaidAll] at h
  case nil => simp [tilesAll, h, between_self]
  case cons n ns =>
    rw [tilesAll, List.countP_append, LaidAll.count_tiles ns h.right]
    have hle := h.right.le
    cases hr : n.item.redefines
    case none =>
      have ho : n.offset = cursor := h.left.starts.offset hr
      rw [next_of_none hr] at hle ⊢
      rw [Laid.count_tiles n h.left hr, covers, ho, Nat.add_right_comm cursor n.length]
      exact between_append (by omega) (by omega) i
    case some name =>
      rw [tiles_of_redefines n hr, next_of_redefines hr, List.countP_nil, Nat.zero_add]

end

mutual

-- Where the occurrences of the fields in a node start and end.
theorem Laid.tiles_within (n : Node) {earlier : List Node} {cursor : Nat} (h : n.Laid earlier cursor)
    {shift : Nat} {t : Node × Nat} (ht : t ∈ n.tiles shift) :
    n.offset + shift ≤ t.1.offset + t.2 ∧ t.1.offset + t.2 + t.1.length ≤ n.offset + shift + n.length := by
  cases n <;> simp only [tiles] at ht <;> simp only [Laid] at h
  case field item type =>
    split at ht <;> simp at ht
    subst ht
    exact ⟨Nat.le_refl _, Nat.le_refl _⟩
  case group item length members =>
    split at ht
    case isTrue => simp at ht
    case isFalse =>
      have := LaidAll.tiles_within members h.right ht
      simp only [offset, Node.length, Node.item] at *
      omega
  case array count element =>
    have ⟨k, hk, ht⟩ := List.mem_flatMap.mp ht
    have := Laid.tiles_within element h ht
    have hk : k * element.length + element.length ≤ count * element.length := by
      rw [←Nat.succ_mul]
      exact Nat.mul_le_mul_right _ (List.mem_range.mp hk)
    simp only [offset, Node.length, Node.item] at *
    omega

theorem LaidAll.tiles_within (ns : List Node) {earlier : List Node} {cursor stop : Nat}
    (h : LaidAll earlier cursor stop ns) {shift : Nat} {t : Node × Nat} (ht : t ∈ tilesAll shift ns) :
    cursor + shift ≤ t.1.offset + t.2 ∧ t.1.offset + t.2 + t.1.length ≤ stop + shift := by
  cases ns <;> simp only [tilesAll] at ht
  case nil => simp at ht
  case cons n ns =>
    simp only [LaidAll] at h
    have hle := h.right.le
    cases hr : n.item.redefines
    case none =>
      have ho : n.offset = cursor := h.left.starts.offset hr
      rw [next_of_none hr] at hle h
      cases List.mem_append.mp ht
      case inl ht =>
        have := Laid.tiles_within n h.left ht
        omega
      case inr ht =>
        have := LaidAll.tiles_within ns h.right ht
        omega
    case some name =>
      rw [tiles_of_redefines n hr, List.nil_append] at ht
      rw [next_of_redefines hr] at h
      exact LaidAll.tiles_within ns h.right ht

end

-- The parts of a node, itself among them.
inductive Within (root : Node) : Node → Prop
  | root : Within root root
  | member {item : Item} {length : Nat} {members : List Node} {n : Node} :
    Within root (group item length members) → n ∈ members → Within root n
  | element {count : Nat} {n : Node} : Within root (array count n) → Within root n

-- The bytes of the members that do not lie over other ones.
def ownLength (members : List Node) : Nat :=
  ((members.filter (·.item.redefines.isNone)).map length).sum

theorem LaidAll.stop_eq {earlier : List Node} {cursor stop : Nat} {ns : List Node}
    (h : LaidAll earlier cursor stop ns) : stop = cursor + ownLength ns := by
  induction ns generalizing earlier cursor <;> simp only [LaidAll] at h
  case nil => simp [ownLength, h]
  case cons n ns hi =>
    rw [hi h.right]
    cases hr : n.item.redefines
    case none => simp [ownLength, hr, next_of_none hr, Nat.add_assoc]
    case some => simp [ownLength, hr, next_of_redefines hr]

-- Each of some siblings is laid out with the ones before it as its earlier siblings.
theorem LaidAll.member {earlier : List Node} {cursor stop : Nat} {n : Node} {before after : List Node}
    (h : LaidAll earlier cursor stop (before ++ n :: after)) :
    ∃ c, n.Laid (before.reverse ++ earlier) c := by
  induction before generalizing earlier cursor <;> simp only [List.nil_append, List.cons_append, LaidAll] at h
  case nil => exact ⟨cursor, h.left⟩
  case cons m ms hi =>
    have ⟨c, hc⟩ := hi h.right
    exact ⟨c, by simpa using hc⟩

theorem Laid.within {root n : Node} {earlier : List Node} {cursor : Nat} (h : root.Laid earlier cursor)
    (hn : root.Within n) : ∃ earlier cursor, n.Laid earlier cursor := by
  induction hn
  case root => exact ⟨earlier, cursor, h⟩
  case member item length members n _ hm hi =>
    have ⟨_, _, hi⟩ := hi
    have ⟨before, after, he⟩ := List.append_of_mem hm
    rw [Laid, he] at hi
    have ⟨c, hc⟩ := hi.right.member
    exact ⟨_, c, hc⟩
  case element count n _ hi =>
    have ⟨e, c, hi⟩ := hi
    rw [Laid] at hi
    exact ⟨e, c, hi⟩

theorem Laid.group {root : Node} {earlier : List Node} {cursor : Nat} {item : Item} {length : Nat}
    {members : List Node} (h : root.Laid earlier cursor) (hg : root.Within (.group item length members)) :
    LaidAll [] item.offset (item.offset + length) members := by
  have ⟨_, _, h⟩ := h.within hg
  rw [Laid] at h
  exact h.right

theorem Laid.redefining {earlier : List Node} {cursor : Nat} {n : Node} {name : Text}
    (h : n.Laid earlier cursor) (hr : n.item.redefines = some name) :
    ∃ t, earlier.find? (·.name == name) = some t ∧ n.offset = t.offset := by
  have hs := h.starts
  rwa [Starts, hr] at hs

end Node

namespace Layout

def tiles (layout : Layout) : List (Node × Nat) :=
  layout.root.tiles 0

variable {layout : Layout}

theorem IsCompiled.count_tiles (h : layout.IsCompiled) (i : Nat) :
    layout.tiles.countP (Node.covers i) = if i < layout.length then 1 else 0 := by
  rw [tiles, h.laid.count_tiles _ rfl]
  simp only [Node.covers, between, root, Node.offset, Node.item, Node.length]
  by_cases hi : i < layout.length <;> simp [hi]

theorem IsCompiled.tiles_le (h : layout.IsCompiled) {t : Node × Nat} (ht : t ∈ layout.tiles) :
    t.1.offset + t.2 + t.1.length ≤ layout.length := by
  have := (h.laid.tiles_within _ ht).right
  simpa [root, Node.offset, Node.item, Node.length] using this

-- A record is tiled by its fields, and what redefines an item lies over it and takes no room of its own.
theorem compiled_tiled (h : layout.IsCompiled) :
    (∀ i, layout.tiles.countP (Node.covers i) = if i < layout.length then 1 else 0) ∧
      (∀ t ∈ layout.tiles, t.1.offset + t.2 + t.1.length ≤ layout.length) ∧
      (∀ item length members, layout.root.Within (.group item length members) →
        length = Node.ownLength members ∧
          ∀ before n after name, members = before ++ n :: after → n.item.redefines = some name →
            ∃ t, before.reverse.find? (·.name == name) = some t ∧ n.offset = t.offset) := by
  refine ⟨h.count_tiles, fun _ => h.tiles_le, ?_⟩
  intro item length members hg
  have hm := h.laid.group hg
  refine ⟨by have := hm.stop_eq; omega, ?_⟩
  intro before n after name he hr
  rw [he] at hm
  have ⟨_, hn⟩ := hm.member
  simpa using hn.redefining hr

theorem sample_tiled :
    sample.IsCompiled ∧ (∀ i, sample.tiles.countP (Node.covers i) = if i < 5 then 1 else 0) ∧
      ∀ t ∈ sample.tiles, t.1.offset + t.2 + t.1.length ≤ 5 :=
  have ⟨hc, hl, _⟩ := compiled_tiled sample_isCompiled
  ⟨sample_isCompiled, hc, hl⟩

end Layout
end Copybook
