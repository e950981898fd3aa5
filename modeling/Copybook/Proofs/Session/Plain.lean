import Copybook.Proofs.Layout.Export
import Copybook.Proofs.Session.Access

/-!
The value of a record with all that it holds: its scalars are the values of the fields that can be reached by name and
index, each under its own path, and it depends on nothing but the bytes of these fields.
-/

namespace Copybook

namespace Value

mutual

-- The scalars in a value, each with the way to it: by name in a record, by position in a list.
def leaves : Value → List (List Key × Value)
  | list items => itemLeaves 0 items
  | record fields => fieldLeaves fields
  | v => [([], v)]

def itemLeaves (k : Nat) : List Value → List (List Key × Value)
  | [] => []
  | v :: vs => v.leaves.map (Prod.map (.position k :: ·) id) ++ itemLeaves (k + 1) vs

def fieldLeaves : List (Text × Value) → List (List Key × Value)
  | [] => []
  | (name, v) :: fields => v.leaves.map (Prod.map (.name name :: ·) id) ++ fieldLeaves fields

end

variable {α : Type} {R : List Key × Value → α → Prop}

theorem forall₂_itemLeaves {g : Nat → List α} {k count : Nat} {items : List Value}
    (h : List.Forall₂ (fun j v => List.Forall₂ (fun leaf a => R (.position j :: leaf.1, leaf.2) a) v.leaves (g j))
      (List.range' k count) items) :
    List.Forall₂ R (itemLeaves k items) ((List.range' k count).flatMap g) := by
  induction count generalizing k items
  case zero =>
    cases h
    exact .nil
  case succ count hi =>
    rw [List.range'_succ] at h ⊢
    have ⟨v, vs, hv, hvs, he⟩ := List.forall₂_cons_left_iff.mp h
    rw [he, itemLeaves, List.flatMap_cons]
    exact List.rel_append (List.forall₂_map_left_iff.mpr hv) (hi hvs)

theorem forall₂_fieldLeaves {β : Type} {g : β → List α} {bs : List β} {fields : List (Text × Value)}
    (h : List.Forall₂ (fun b f => List.Forall₂ (fun leaf a => R (.name f.1 :: leaf.1, leaf.2) a) f.2.leaves (g b))
      bs fields) :
    List.Forall₂ R (fieldLeaves fields) (bs.flatMap g) := by
  induction h
  case nil => exact .nil
  case cons b f bs fields hf _ hi =>
    rw [fieldLeaves, List.flatMap_cons]
    exact List.rel_append (List.forall₂_map_left_iff.mpr hf) hi

end Value

-- What is read from a field is a text or a number.
theorem FieldType.decode_cases {type : FieldType} {codec : Codec} {b : Bytes} {v : Value}
    (h : type.decode codec b = .ok v) : (∃ s, v = .text s) ∨ (∃ i, v = .int i) ∨ ∃ d, v = .decimal d := by
  cases type <;> simp only [decode] at h
  case text =>
    have ⟨s, _, hv⟩ := map_eq_ok_iff.mp h
    exact .inl ⟨s, hv.symm⟩
  case number storage shape =>
    have ⟨n, _, h⟩ := bind_eq_ok_iff.mp h
    unfold NumberShape.value at h
    split at h
    case isTrue =>
      cases h
      exact .inr <| .inl ⟨n, rfl⟩
    case isFalse =>
      have ⟨d, _, hv⟩ := map_eq_ok_iff.mp <| mapError_eq_ok_iff.mp h
      exact .inr <| .inr ⟨d, hv.symm⟩

theorem FieldType.leaves_decode {type : FieldType} {codec : Codec} {b : Bytes} {v : Value}
    (h : type.decode codec b = .ok v) : v.leaves = [([], v)] := by
  rcases decode_cases h with ⟨_, rfl⟩ | ⟨_, rfl⟩ | ⟨_, rfl⟩ <;> rfl

theorem Spot.leaves_read {s : Spot} {codec : Codec} {buffer : Bytes} {v : Value} (h : s.read codec buffer = .ok v) :
    v.leaves = [([], v)] := by
  have ⟨_, _, h⟩ := bind_eq_ok_iff.mp h
  exact FieldType.leaves_decode <| mapError_eq_ok_iff.mp h

namespace Place

variable {codec : Codec} {buffer : Bytes} {shift : Nat} {path : List Key} {v : Value}

section Now

theorem enter_now (p : Place) : p.enter (.now codec buffer) = .ok p := by
  unfold enter
  split <;> rfl

theorem plain_field (item : Item) (type : FieldType) :
    plain (.now codec buffer) shift path (.field item type) = Spot.read ⟨item, type, shift, path⟩ codec buffer := by
  rw [plain]
  rfl

theorem plainMembers_eq (seen : List Text) (ns : List Node) : plainMembers (.now codec buffer) shift path seen ns =
    (Node.unseen seen ns).mapM fun n =>
      (plain (.now codec buffer) shift (path ++ [.name n.name]) n).map (Prod.mk n.name) := by
  induction ns generalizing seen
  case nil => rfl
  case cons n ns hi =>
    rw [plainMembers, Node.unseen_cons]
    split
    · exact hi seen
    · rw [List.mapM_cons, enter_now, ok_bind, hi]
      cases plain (.now codec buffer) shift (path ++ [.name n.name]) n <;> rfl

theorem items_of_plain {p : Place} {fields : List (Text × Value)}
    (h : List.Forall₂ (fun n f => n.name = f.1 ∧
      plain (.now codec buffer) p.shift (p.path ++ [.name n.name]) n = .ok f.2) p.node.fields fields) :
    ∃ read, p.items (.now codec buffer) = .ok read := by
  simp only [items, mapM_eq_ok_iff]
  generalize p.node.fields = ns at h
  induction h
  case nil => exact ⟨[], .nil⟩
  case cons n f _ _ hn _ hi =>
    have ⟨read, hr⟩ := hi
    cases n
    case field item type =>
      have hv : Spot.read ⟨item, type, p.shift, p.path ++ [.name item.name]⟩ codec buffer = .ok f.2 :=
        plain_field item type ▸ hn.right
      refine ⟨(item.name, .value f.2) :: read, .cons ?_ hr⟩
      simp only [fetch, spot?, member, Reach.now, Node.name, Node.item, hv]
      rfl
    all_goals exact ⟨_ :: read, .cons rfl hr⟩

-- The fields of a group are read before its value is made, and none of them in vain.
theorem plain_group_eq_ok_iff {item : Item} {length : Nat} {members : List Node} :
    plain (.now codec buffer) shift path (.group item length members) = .ok v ↔
      ∃ fields, v = .record fields ∧ List.Forall₂ (fun n f => n.name = f.1 ∧
        plain (.now codec buffer) shift (path ++ [.name n.name]) n = .ok f.2)
        (Node.group item length members).fields fields := by
  have hmap (n : Node) (f : Text × Value) :
      (plain (.now codec buffer) shift (path ++ [.name n.name]) n).map (Prod.mk n.name) = .ok f ↔
        n.name = f.1 ∧ plain (.now codec buffer) shift (path ++ [.name n.name]) n = .ok f.2 := by
    rw [map_eq_ok_iff]
    constructor
    · rintro ⟨w, hw, rfl⟩
      exact ⟨rfl, hw⟩
    · rintro ⟨hn, hw⟩
      exact ⟨f.2, hw, Prod.ext hn rfl⟩
  rw [plain, bind_eq_ok_iff]
  simp only [plainMembers_eq, Node.unseen_nil, bind_eq_ok_iff, mapM_eq_ok_iff, hmap]
  constructor
  · rintro ⟨_, _, fields, hf, he⟩
    exact ⟨fields, (Except.ok.inj he).symm, hf⟩
  · rintro ⟨fields, he, hf⟩
    have ⟨read, hr⟩ := items_of_plain (p := ⟨.group item length members, shift, path⟩) hf
    exact ⟨read, hr, fields, hf, congrArg _ he.symm⟩

theorem plain_array_eq_ok_iff {count : Nat} {n : Node} :
    plain (.now codec buffer) shift path (.array count n) = .ok v ↔ ∃ items, v = .list items ∧
      List.Forall₂ (fun k w => plain (.now codec buffer) (shift + k * n.length) (path ++ [.position k]) n = .ok w)
        (List.range count) items := by
  simp only [plain, enter_now, ok_bind, bind_eq_ok_iff, mapM_eq_ok_iff]
  constructor
  · rintro ⟨items, hi, he⟩
    exact ⟨items, (Except.ok.inj he).symm, hi⟩
  · rintro ⟨items, he, hi⟩
    exact ⟨items, hi, congrArg _ he.symm⟩

end Now

-- A scalar in a value is that of a field, if the way to it is the rest of the path of the field.
def IsLeafOf (codec : Codec) (buffer : Bytes) (path : List Key) (leaf : List Key × Value) (s : Spot) : Prop :=
  s.path = path ++ leaf.1 ∧ s.read codec buffer = .ok leaf.2

-- The scalars in the value of a node are the values of the fields that make it up.
theorem leaves_of_plain {n : Node} (h : plain (.now codec buffer) shift path n = .ok v) :
    List.Forall₂ (IsLeafOf codec buffer path) v.leaves (n.exports shift path) := by
  induction n using Node.induct generalizing shift path v
  case field item type =>
    rw [plain_field] at h
    rw [Spot.leaves_read h, Node.exports]
    exact .cons ⟨(List.append_nil path).symm, h⟩ .nil
  case group item length members hi =>
    obtain ⟨fields, hv, hf⟩ := plain_group_eq_ok_iff.mp h
    rw [hv, Value.leaves, Node.exports_group]
    have hm : ∀ m ∈ (Node.group item length members).fields, m ∈ members := fun m hm => (Node.fields_sublist _).mem hm
    refine Value.forall₂_fieldLeaves <| ((List.forall₂_and_left _ _).mpr ⟨hm, hf⟩).imp fun m f h => ?_
    obtain ⟨hm, hn, hf⟩ := h
    refine (hi m hm hf).imp fun leaf s hl => ⟨?_, hl.right⟩
    rw [hl.left, hn, List.append_assoc, List.singleton_append]
  case array count n hi =>
    obtain ⟨items, hv, hf⟩ := plain_array_eq_ok_iff.mp h
    rw [hv, Value.leaves, Node.exports]
    rw [List.range_eq_range'] at hf ⊢
    refine Value.forall₂_itemLeaves <| hf.imp fun k w hw => (hi hw).imp fun leaf s hl => ⟨?_, hl.right⟩
    rw [hl.left, List.append_assoc, List.singleton_append]

-- Where these fields have the same values, so has the node.
theorem plain_of_reads {codec' : Codec} {buffer' : Bytes} {n : Node}
    (h : plain (.now codec buffer) shift path n = .ok v)
    (hr : ∀ s ∈ n.exports shift path, s.read codec' buffer' = s.read codec buffer) :
    plain (.now codec' buffer') shift path n = .ok v := by
  induction n using Node.induct generalizing shift path v
  case field item type =>
    rw [plain_field] at h ⊢
    exact (hr _ (by simp [Node.exports])).trans h
  case group item length members hi =>
    obtain ⟨fields, hv, hf⟩ := plain_group_eq_ok_iff.mp h
    rw [Node.exports_group] at hr
    refine plain_group_eq_ok_iff.mpr ⟨fields, hv, ?_⟩
    refine ((List.forall₂_and_left _ _).mpr ⟨fun m hm => hm, hf⟩).imp fun m f h => ⟨h.right.left, ?_⟩
    obtain ⟨hm, _, hf⟩ := h
    exact hi m ((Node.fields_sublist _).mem hm) hf fun s hs => hr s <| List.mem_flatMap.mpr ⟨m, hm, hs⟩
  case array count n hi =>
    obtain ⟨items, hv, hf⟩ := plain_array_eq_ok_iff.mp h
    rw [Node.exports] at hr
    refine plain_array_eq_ok_iff.mpr ⟨items, hv, ?_⟩
    refine ((List.forall₂_and_left _ _).mpr ⟨fun k hk => hk, hf⟩).imp fun k w h => ?_
    exact hi h.right fun s hs => hr s <| List.mem_flatMap.mpr ⟨k, h.left, hs⟩

-- No two scalars in the value of a node are found in the same way.
theorem leaves_nodup {n : Node} (h : plain (.now codec buffer) shift path n = .ok v) :
    (v.leaves.map Prod.fst).Nodup := by
  have he : v.leaves.map (path ++ ·.1) = (n.exports shift path).map (·.path) := by
    rw [←List.forall₂_eq_eq_eq, List.forall₂_map_left_iff, List.forall₂_map_right_iff]
    exact (leaves_of_plain h).imp fun _ _ hl => hl.left.symm
  have hn : ((n.exports shift path).map (·.path)).Nodup := List.pairwise_map.mpr (n.exports_pairwise shift path)
  rw [←he, ←Function.comp_def (path ++ ·) Prod.fst, ←List.map_map] at hn
  exact hn.of_map _

end Place

namespace Access

-- Accesses one after another, each of which comes to its result.
theorem Gives.mapM {α γ : Type} {f : γ → Access α} {g : γ → Except AccessFault α} {l : List γ}
    (h : ∀ c ∈ l, (f c).Gives (g c)) : Gives (l.mapM f) (l.mapM g) := by
  induction l <;> simp only [List.mapM_nil, List.mapM_cons]
  case nil => exact Gives.pure _
  case cons c l hi =>
    have ⟨hc, hl⟩ := List.forall_mem_cons.mp h
    exact hc.bind fun a => (hi hl).bind fun as => Gives.pure _

end Access

namespace Place

open Access

variable {codec : Codec} {buffer : Bytes}

theorem items_gives (p : Place) : Gives (p.items (Reader.direct codec buffer)) (p.items (.now codec buffer)) :=
  Gives.mapM fun _ _ => (fetch_gives _).bind fun _ => Gives.pure _

theorem enter_gives (p : Place) : Gives (p.enter (Reader.direct codec buffer)) (p.enter (.now codec buffer)) := by
  unfold enter
  split <;> exact Gives.pure _

-- Without a memory, the value of a node depends on the bytes alone.
theorem plain_gives (n : Node) (shift : Nat) (path : List Key) :
    Gives (plain (Reader.direct codec buffer) shift path n) (plain (.now codec buffer) shift path n) := by
  induction n using Node.induct generalizing shift path <;> simp only [plain]
  case field => exact Gives.ofExcept _
  case group item length members hi =>
    refine (items_gives _).bind fun _ => ?_
    refine Gives.bind ?_ fun _ => Gives.pure _
    generalize ([] : List Text) = seen
    induction members generalizing seen <;> simp only [plainMembers]
    case nil => exact Gives.pure _
    case cons n ns his =>
      have ⟨hn, hns⟩ := List.forall_mem_cons.mp hi
      split
      · exact his hns _
      · refine (enter_gives _).bind fun q => (hn ..).bind fun v => ?_
        exact (his hns _).bind fun _ => Gives.pure _
  case array count n hi =>
    refine Gives.bind ?_ fun _ => Gives.pure _
    exact Gives.mapM fun k _ => (enter_gives _).bind fun q => hi ..

end Place

namespace Session

open Access

-- The outcome of asking for the value of an accessor in a record without a memory.
theorem run_plain (codec : Codec) (buffer : Bytes) (root : Place) (path : List Value) :
    (ask (Reader.direct codec buffer) codec buffer root path .plain).run.run {} =
      ((root.accessor (.now codec buffer) path >>= Place.toValue (.now codec buffer)).map .value, {}) := by
  have ha : ask (Reader.direct codec buffer) codec buffer root path .plain =
      root.accessor (Reader.direct codec buffer) path >>= fun p =>
        query (Reader.direct codec buffer) codec buffer p .plain := by
    rw [ask, Place.accessor, bind_assoc]
    refine congrArg (_ >>= ·) (funext fun f => ?_)
    cases f <;> rfl
  have h : Gives (ask (Reader.direct codec buffer) codec buffer root path .plain) <|
      root.accessor (.now codec buffer) path >>= fun p => (p.toValue (.now codec buffer)).map .value :=
    ha ▸ (Place.accessor_gives root path).bind fun p => (Place.plain_gives p.node p.shift p.path).map _
  refine h.trans ?_
  cases root.accessor (.now codec buffer) path <;> rfl

def plainAt (s : Session) (record : Text) (path : List Value) : Except AccessFault Reply × Session :=
  s.stepWith .remembering (.ask record path .plain)

variable {s : Session} {layouts : List Layout} {record : Text} {layout : Layout} {j : Nat} {buffers : List Bytes}

-- The value of an accessor is that of its node over the bytes there are, and all bytes stay as they are.
theorem plainAt_eq (h : s.Reachable layouts) (hs : s.Has record layout j buffers) (path : List Value) :
    let reach := Reach.now layout.codec (buffers.getD j [])
    (s.plainAt record path).1 =
        ((Place.root layout).accessor reach path >>= Place.toValue reach).map .value ∧
      (s.plainAt record path).2.Has record layout j buffers := by
  have ⟨hb, memory, hr⟩ := hs
  subst hb
  have hreach := Reader.agrees (Place.root layout) layout.codec (s.bytes j)
  have ⟨r, m, hx, hy, _⟩ := ask_agrees hreach (Place.root_stands _) layout.codec (s.bytes j) path .plain memory
    (h.sound _ (Memory.mem_of_lookup hr))
  cases hy.symm.trans (run_plain ..)
  simp only [plainAt, stepWith, hr, hx]
  exact ⟨rfl, rfl, m, lookup_bind ..⟩

end Session
end Copybook
