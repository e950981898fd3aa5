import Copybook.Proofs.Layout.Template

/-!
The order in which the parts of a record are visited, by their positions: the number of a member in its group or of an
occurrence in its array, from the outside to the inside. Positions are compared as words are, so that a group comes
before its members, a member before those that are declared after it, and an occurrence before the next one.
-/

namespace Copybook
namespace Node

-- The field or group at a position, with the distance from its first occurrence.
def part? : Node → Nat → List Nat → Option (Node × Nat)
  | field item type, shift, [] => some (field item type, shift)
  | field _ _, _, _ :: _ => none
  | group item length members, shift, [] => some (group item length members, shift)
  | group _ _ members, shift, k :: position => members[k]?.bind fun n => n.part? shift position
  | array _ _, _, [] => none
  | array count element, shift, k :: position =>
    if k < count then element.part? (shift + k * element.length) position else none
termination_by structural _ _ position => position

-- What is visited at a position, seen from one step further outwards.
def visit (k : Nat) (e : List Nat × Node × Nat) : List Nat × Node × Nat :=
  (k :: e.1, e.2)

mutual

-- The occurrences in a node, each with its position.
def walk (shift : Nat) : Node → List (List Nat × Node × Nat)
  | field item type => [([], field item type, shift)]
  | group item length members => ([], group item length members, shift) :: walkAll 0 shift members
  | array count element =>
    (List.range count).flatMap fun k => (element.walk (shift + k * element.length)).map (visit k)

def walkAll (number shift : Nat) : List Node → List (List Nat × Node × Nat)
  | [] => []
  | n :: ns => (n.walk shift).map (visit number) ++ walkAll (number + 1) shift ns

end

mutual

theorem map_walk (n : Node) (shift : Nat) : (n.walk shift).map (·.2) = n.occurrences shift := by
  cases n <;> simp only [walk, occurrences]
  case field => rfl
  case group item length members => rw [List.map_cons, map_walkAll members]
  case array count element =>
    rw [List.map_flatMap]
    congr 1
    funext k
    rw [List.map_map, ←map_walk element]
    rfl

theorem map_walkAll (ns : List Node) (number shift : Nat) :
    (walkAll number shift ns).map (·.2) = occurrencesAll shift ns := by
  cases ns
  case nil => rfl
  case cons n ns =>
    rw [walkAll, occurrencesAll, List.map_append, List.map_map, map_walkAll ns, ←map_walk n]
    rfl

end

theorem mem_map_visit {k : Nat} {es : List (List Nat × Node × Nat)} {position : List Nat} {t : Node × Nat} :
    (position, t) ∈ es.map (visit k) ↔ ∃ inner, position = k :: inner ∧ (inner, t) ∈ es := by
  constructor
  case mp =>
    intro h
    have ⟨(inner, t'), he, hv⟩ := List.mem_map.mp h
    cases hv
    exact ⟨inner, rfl, he⟩
  case mpr =>
    rintro ⟨inner, rfl, he⟩
    exact List.mem_map.mpr ⟨_, he, rfl⟩

mutual

-- All positions at which there is something are visited, and no others.
theorem mem_walk (n : Node) {shift : Nat} {position : List Nat} {t : Node × Nat} :
    (position, t) ∈ n.walk shift ↔ n.part? shift position = some t := by
  cases n <;> cases position <;> simp only [walk, part?]
  case field.nil => simp [eq_comm]
  case field.cons => simp
  case group.nil item length members => simp [mem_walkAll members, eq_comm]
  case group.cons item length members k inner => simp [mem_walkAll members]
  case array.nil => simp [mem_map_visit]
  case array.cons count element k inner => simp [mem_map_visit, mem_walk element]

theorem mem_walkAll (ns : List Node) {number shift : Nat} {position : List Nat} {t : Node × Nat} :
    (position, t) ∈ walkAll number shift ns ↔
      ∃ k inner, position = (number + k) :: inner ∧ (ns[k]?.bind fun n => n.part? shift inner) = some t := by
  cases ns
  case nil => simp [walkAll]
  case cons n ns =>
    simp only [walkAll, List.mem_append, mem_map_visit, mem_walk n, mem_walkAll ns]
    constructor
    case mp =>
      rintro (⟨inner, hp, ht⟩ | ⟨k, inner, hp, ht⟩)
      case inl => exact ⟨0, inner, hp, ht⟩
      case inr => exact ⟨k + 1, inner, by rw [hp, Nat.add_assoc, Nat.add_comm 1], ht⟩
    case mpr =>
      rintro ⟨k, inner, hp, ht⟩
      cases k
      case zero => exact .inl ⟨inner, hp, ht⟩
      case succ k => exact .inr ⟨k, inner, by rw [hp, Nat.add_assoc, Nat.add_comm 1], ht⟩

end

-- One position comes before another.
def Precedes (e e' : List Nat × Node × Nat) : Prop :=
  e.1 < e'.1

theorem sorted_map_visit {es : List (List Nat × Node × Nat)} (k : Nat) (h : es.Pairwise Precedes) :
    (es.map (visit k)).Pairwise Precedes :=
  List.pairwise_map.mpr (h.imp List.cons_lt_cons_self.mpr)

theorem precedes_of_lt {k k' : Nat} (h : k < k') {es es' : List (List Nat × Node × Nat)} :
    ∀ e ∈ es.map (visit k), ∀ e' ∈ es'.map (visit k'), Precedes e e' := by
  intro e he e' he'
  have ⟨_, _, he⟩ := List.mem_map.mp he
  have ⟨_, _, he'⟩ := List.mem_map.mp he'
  rw [←he, ←he']
  exact List.cons_lt_cons_iff.mpr (.inl h)

mutual

-- Positions are visited in ascending order.
theorem sorted_walk (n : Node) (shift : Nat) : (n.walk shift).Pairwise Precedes := by
  cases n <;> simp only [walk]
  case field => exact List.pairwise_singleton ..
  case group item length members =>
    refine List.pairwise_cons.mpr ⟨?_, sorted_walkAll members 0 shift⟩
    rintro ⟨position, t⟩ h
    have ⟨k, inner, hp, _⟩ := (mem_walkAll members).mp h
    rw [Precedes, hp]
    exact List.nil_lt_cons ..
  case array count element =>
    refine List.pairwise_flatMap.mpr ⟨fun k _ => sorted_map_visit k (sorted_walk element _), ?_⟩
    exact List.pairwise_lt_range.imp fun h => precedes_of_lt h

theorem sorted_walkAll (ns : List Node) (number shift : Nat) : (walkAll number shift ns).Pairwise Precedes := by
  cases ns <;> simp only [walkAll]
  case nil => exact .nil
  case cons n ns =>
    refine List.pairwise_append.mpr ⟨sorted_map_visit number (sorted_walk n shift), sorted_walkAll ns _ shift, ?_⟩
    rintro e he ⟨position, t⟩ h
    have ⟨_, _, he⟩ := List.mem_map.mp he
    have ⟨k, inner, hp, _⟩ := (mem_walkAll ns).mp h
    rw [Precedes, hp, ←he]
    exact List.cons_lt_cons_iff.mpr (.inl (by omega))

end
end Node
end Copybook
