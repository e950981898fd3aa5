import Copybook.Json.Writer
import Copybook.Proofs.Session.Plain

/-!
Which values have a JSON form: those that do not go too deep and whose scalars all have one.
-/

namespace Copybook

namespace Value

mutual

-- How many brackets are open at once where a value is written.
def depth : Value → Nat
  | .list items => itemsDepth items + 1
  | .record fields => fieldsDepth fields + 1
  | _ => 0

def itemsDepth : List Value → Nat
  | [] => 0
  | v :: vs => max v.depth (itemsDepth vs)

def fieldsDepth : List (Text × Value) → Nat
  | [] => 0
  | (_, v) :: fields => max v.depth (fieldsDepth fields)

end

-- A scalar that JSON has a form for.
def Writable : Value → Prop
  | .int i => Json.isWritable i
  | .ellipsis => False
  | _ => True

end Value

namespace Json

open Value

variable {style : Style}

theorem isSome_bind_map {α β γ : Type} (x : Option α) (y : Option β) (f : α → β → γ) :
    (x.bind fun a => y.bind fun b => some (f a b)).isSome ↔ x.isSome ∧ y.isSome := by
  cases x <;> cases y <;> simp

mutual

-- A value that is not too deep can be written if its scalars can.
theorem writeAt_isSome_iff {depth : Nat} {v : Value} (h : depth + v.depth ≤ maxOpen) :
    (writeAt style depth v).isSome ↔ ∀ leaf ∈ v.leaves, leaf.2.Writable := by
  cases v <;> simp only [writeAt, leaves, List.forall_mem_singleton, Writable]
  case int i => split <;> simp_all
  case list items =>
    rw [Value.depth] at h
    rw [if_pos (by omega), Option.isSome_map]
    exact writeItems_isSome_iff (by omega)
  case record fields =>
    rw [Value.depth] at h
    rw [if_pos (by omega), Option.isSome_map]
    exact writeFields_isSome_iff (by omega)
  case ellipsis => simp
  all_goals simp

theorem writeItems_isSome_iff {depth k : Nat} {items : List Value} (h : depth + itemsDepth items ≤ maxOpen) :
    (writeItems style depth items).isSome ↔ ∀ leaf ∈ itemLeaves k items, leaf.2.Writable := by
  cases items <;> simp only [writeItems, itemLeaves]
  case nil => simp
  case cons v vs =>
    rw [itemsDepth] at h
    rw [List.forall_mem_append, List.forall_mem_map]
    exact (isSome_bind_map _ _ _).trans
      (and_congr (writeAt_isSome_iff (by omega)) (writeItems_isSome_iff (by omega)))

theorem writeFields_isSome_iff {depth : Nat} {fields : List (Text × Value)}
    (h : depth + fieldsDepth fields ≤ maxOpen) :
    (writeFields style depth fields).isSome ↔ ∀ leaf ∈ fieldLeaves fields, leaf.2.Writable := by
  cases fields <;> simp only [writeFields, fieldLeaves]
  case nil => simp
  case cons field fields =>
    rw [fieldsDepth] at h
    rw [List.forall_mem_append, List.forall_mem_map]
    exact (isSome_bind_map _ _ _).trans
      (and_congr (writeAt_isSome_iff (by omega)) (writeFields_isSome_iff (by omega)))

end

end Json
end Copybook
