import Copybook.Proofs.Json.Reading
import Copybook.Proofs.Json.Writing
import Copybook.Proofs.Layout.Depth

/-!
What the values of records look like: their fields have different names, and they go as deep as their layouts.
-/

namespace Copybook

namespace Value

theorem allNamed_iff {items : List Value} : AllNamed items ↔ ∀ v ∈ items, v.Named := by
  induction items
  case nil => simp [AllNamed]
  case cons v vs hi => rw [AllNamed, hi, List.forall_mem_cons]

theorem fieldsNamed_iff {fields : List (Text × Value)} : FieldsNamed fields ↔ ∀ f ∈ fields, f.2.Named := by
  induction fields
  case nil => simp [FieldsNamed]
  case cons f fields hi => rw [FieldsNamed, hi, List.forall_mem_cons]

theorem itemsDepth_le_iff {items : List Value} {k : Nat} : itemsDepth items ≤ k ↔ ∀ v ∈ items, v.depth ≤ k := by
  induction items
  case nil => simp [itemsDepth]
  case cons v vs hi => rw [itemsDepth, max_le_iff, hi, List.forall_mem_cons]

theorem fieldsDepth_le_iff {fields : List (Text × Value)} {k : Nat} :
    fieldsDepth fields ≤ k ↔ ∀ f ∈ fields, f.2.depth ≤ k := by
  induction fields
  case nil => simp [fieldsDepth]
  case cons f fields hi => rw [fieldsDepth, max_le_iff, hi, List.forall_mem_cons]

end Value

namespace Place

variable {codec : Codec} {buffer : Bytes} {n : Node} {shift : Nat} {path : List Key} {v : Value}

theorem plain_field_cases {item : Item} {type : FieldType}
    (h : plain (.now codec buffer) shift path (.field item type) = .ok v) :
    (∃ s, v = .text s) ∨ (∃ i, v = .int i) ∨ ∃ d, v = .decimal d := by
  rw [plain_field] at h
  obtain ⟨_, _, hd⟩ := bind_eq_ok_iff.mp h
  exact FieldType.decode_cases (mapError_eq_ok_iff.mp hd)

theorem named_of_plain (h : plain (.now codec buffer) shift path n = .ok v) : v.Named := by
  induction n using Node.induct generalizing shift path v
  case field => rcases plain_field_cases h with ⟨_, rfl⟩ | ⟨_, rfl⟩ | ⟨_, rfl⟩ <;> trivial
  case group item length members hi =>
    obtain ⟨fields, rfl, hf⟩ := plain_group_eq_ok_iff.mp h
    refine ⟨?_, Value.fieldsNamed_iff.mpr <|
      forall_of_forall₂ hf fun m hm _ hp => hi m ((Node.fields_sublist _).mem hm) hp.right⟩
    -- The fields of the value have the names of the fields of the group.
    have hn : List.Forall₂ (· = ·) ((Node.group item length members).fields.map (·.name)) (fields.map (·.1)) :=
      List.forall₂_map_left_iff.mpr (List.forall₂_map_right_iff.mpr (hf.imp fun _ _ hp => hp.left))
    rw [List.forall₂_eq_eq_eq] at hn
    exact List.pairwise_map.mp (hn ▸ List.pairwise_map.mpr (Node.fields_pairwise _))
  case array count n hi =>
    obtain ⟨items, rfl, hf⟩ := plain_array_eq_ok_iff.mp h
    exact Value.allNamed_iff.mpr (forall_of_forall₂ hf fun _ _ _ hp => hi hp)

theorem depth_le_of_plain (h : plain (.now codec buffer) shift path n = .ok v) : v.depth ≤ n.depth := by
  induction n using Node.induct generalizing shift path v
  case field => rcases plain_field_cases h with ⟨_, rfl⟩ | ⟨_, rfl⟩ | ⟨_, rfl⟩ <;> exact Nat.zero_le _
  case group item length members hi =>
    obtain ⟨fields, rfl, hf⟩ := plain_group_eq_ok_iff.mp h
    refine Nat.succ_le_succ (Value.fieldsDepth_le_iff.mpr <| forall_of_forall₂ hf fun m hm _ hp => ?_)
    have hm := (Node.fields_sublist _).mem hm
    exact (hi m hm hp.right).trans (Node.depth_le_membersDepth hm)
  case array count n hi =>
    obtain ⟨items, rfl, hf⟩ := plain_array_eq_ok_iff.mp h
    exact Nat.succ_le_succ (Value.itemsDepth_le_iff.mpr <| forall_of_forall₂ hf fun _ _ _ hp => hi hp)

end Place

namespace Layout

variable {layout : Layout} {buffer : Bytes} {v : Value}

-- The names of the fields of a record, and of those of its groups, are different.
theorem named_of_value (h : layout.value buffer = .ok v) : v.Named :=
  Place.named_of_plain h

theorem depth_of_value (h : layout.value buffer = .ok v) : v.depth ≤ layout.root.depth :=
  Place.depth_le_of_plain h

end Layout
end Copybook
