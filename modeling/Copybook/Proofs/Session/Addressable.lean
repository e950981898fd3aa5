import Copybook.Proofs.Layout.Trail
import Copybook.Proofs.Session.Plain

/-!
What can be named in a group, and what the value of the group shows of it. A name may be given without the groups
around what it means, be they fillers or namesakes of other ones. The value shows the fields of groups that are fields
themselves, each at its place and only there.
-/

namespace Copybook

namespace Value

-- The scalars that are found in a value by a path.
def scalarsAt (v : Value) (path : List Key) : List Value :=
  (v.leaves.filter (·.1 = path)).map Prod.snd

variable {v w : Value} {path : List Key}

theorem scalarsAt_eq_singleton (hn : (v.leaves.map Prod.fst).Nodup) (h : (path, w) ∈ v.leaves) :
    v.scalarsAt path = [w] := by
  have ⟨before, after, hl⟩ := List.append_of_mem h
  rw [hl, List.map_append, List.map_cons, List.nodup_middle, List.nodup_cons, List.mem_append, not_or] at hn
  have empty {leaves : List (List Key × Value)} (h : path ∉ leaves.map Prod.fst) :
      leaves.filter (·.1 = path) = [] :=
    List.filter_eq_nil_iff.mpr fun leaf hm he => h <| List.mem_map.mpr ⟨leaf, hm, of_decide_eq_true he⟩
  simp [scalarsAt, hl, empty hn.left.left, empty hn.left.right]

theorem mem_leaves_of_scalarsAt (h : v.scalarsAt path = [w]) : (path, w) ∈ v.leaves := by
  have hw : w ∈ v.scalarsAt path := h ▸ List.mem_singleton_self w
  have ⟨leaf, hl, he⟩ := List.mem_map.mp hw
  have ⟨hm, hp⟩ := List.mem_filter.mp hl
  have hp : leaf.1 = path := of_decide_eq_true hp
  rwa [←hp, ←he]

theorem scalarsAt_eq_nil (h : ∀ w, (path, w) ∉ v.leaves) : v.scalarsAt path = [] := by
  rw [scalarsAt, List.map_eq_nil_iff, List.filter_eq_nil_iff]
  exact fun leaf hm he => h leaf.2 <| of_decide_eq_true he ▸ hm

end Value

theorem exists_of_forall₂ {α β : Type} {R : α → β → Prop} {as : List α} {bs : List β} (h : List.Forall₂ R as bs)
    {a : α} (ha : a ∈ as) : ∃ b ∈ bs, R a b := by
  induction h
  case nil => contradiction
  case cons hab _ hi =>
    cases List.mem_cons.mp ha
    case inl he => exact ⟨_, List.mem_cons_self, he ▸ hab⟩
    case inr ha =>
      have ⟨b, hb, hr⟩ := hi ha
      exact ⟨b, List.mem_cons_of_mem _ hb, hr⟩

namespace Place

variable {p : Place} {codec : Codec} {buffer : Bytes} {v w : Value} {name : Text} {around : List Node} {item : Item}
  {type : FieldType}

theorem mem_leaves_iff {way : List Key} (hv : p.toValue (.now codec buffer) = .ok v) :
    (way, w) ∈ v.leaves ↔ ∃ s ∈ p.node.exports p.shift p.path, s.path = p.path ++ way ∧
      s.read codec buffer = .ok w := by
  have h := leaves_of_plain hv
  constructor
  · exact exists_of_forall₂ h
  · rintro ⟨s, hs, hp, hr⟩
    have ⟨leaf, hl, hp', hr'⟩ := exists_of_forall₂ h.flip hs
    have hw : leaf = (way, w) :=
      Prod.ext (List.append_cancel_left (hp'.symm.trans hp)) (Except.ok.inj (hr'.symm.trans hr))
    exact hw ▸ hl

-- A name is read as the field that it means, wherever that is.
theorem navigate_of_lookup? {path : List Key} (hn : p.node.lookup? (normalizeName name) = some (.field item type))
    (hr : Spot.read ⟨item, type, p.shift, path⟩ codec buffer = .ok w) :
    p.navigate (.now codec buffer) [.text name] = .ok (.value w) := by
  have hres : p.resolve (.text name) = .ok (p.member (normalizeName name) (.field item type)) := by
    have ⟨node, shift, path⟩ := p
    cases node
    case group => simp only [resolve, hn]
    all_goals contradiction
  have hr : (Reach.now codec buffer).value ⟨item, type, p.shift, p.path ++ [.name (normalizeName name)]⟩ = .ok w := hr
  rw [navigate, get_now, hres, ok_bind]
  simp only [fetch, spot?, member, hr]
  rfl

-- The value shows a field if the groups on the way to it are fields of one another, as it is read by its name.
theorem scalarsAt_of_trail? (hv : p.toValue (.now codec buffer) = .ok v)
    (ht : p.node.trail? (normalizeName name) = some (around, .field item type)) :
    (p.node.Lists around → ∃ w, v.scalarsAt (Node.way around (normalizeName name)) = [w] ∧
      p.navigate (.now codec buffer) [.text name] = .ok (.value w)) ∧
    (¬p.node.Lists around → v.scalarsAt (Node.way around (normalizeName name)) = []) := by
  refine ⟨fun hl => ?_, fun hl => Value.scalarsAt_eq_nil fun w hw => hl ?_⟩
  · have hs : ⟨item, type, p.shift, p.path ++ Node.way around (normalizeName name)⟩ ∈ p.node.exports p.shift p.path :=
      Node.mem_exports_of_trail? ht hl
    have ⟨leaf, hleaf, _, hr⟩ := exists_of_forall₂ (leaves_of_plain hv).flip hs
    have hm := (mem_leaves_iff hv).mpr ⟨_, hs, rfl, hr⟩
    refine ⟨leaf.2, Value.scalarsAt_eq_singleton (leaves_nodup hv) hm, ?_⟩
    have hn : p.node.lookup? (normalizeName name) = some (.field item type) := by
      rw [Node.lookup?_eq, ht]
      rfl
    exact navigate_of_lookup? hn hr
  · have ⟨s, hs, hp, _⟩ := (mem_leaves_iff hv).mp hw
    exact Node.lists_of_mem_exports ht hs hp

end Place

namespace Session

-- Every name in a group that means a field, wherever the group is and whatever bytes there are, has its place in the
-- value of the group. If all groups on the way to the field are fields of the one around them, the value has one scalar
-- there, the one that is read by the name; and if one of them is not, since it is a filler or a namesake of another
-- field before it, there is none. The same is so of the accessors of a record that remembers.
theorem addressable_exported {g : Node} {name : Text} {item : Item} {type : FieldType}
    (hn : g.lookup? (normalizeName name) = some (.field item type)) :
    ∃ around, g.trail? (normalizeName name) = some (around, .field item type) ∧
      let way := Node.way around (normalizeName name)
      (∀ codec buffer shift path v, Place.toValue (.now codec buffer) ⟨g, shift, path⟩ = .ok v →
        (g.Lists around → ∃ w, v.scalarsAt way = [w] ∧
          Place.navigate (.now codec buffer) ⟨g, shift, path⟩ [.text name] = .ok (.value w)) ∧
        (¬g.Lists around → v.scalarsAt way = [])) ∧
      ∀ layouts s record handle keys p v, Reachable layouts s → s.records.lookup record = some handle →
        (Place.root handle.layout).locate keys = .ok p → p.node = g → (s.plainAt record keys).1 = .ok (.value v) →
        (g.Lists around → ∃ w, v.scalarsAt way = [w] ∧
          (s.getAt record (keys ++ [.text name])).1 = .ok (.found (.value w))) ∧
        (¬g.Lists around → v.scalarsAt way = []) := by
  obtain ⟨⟨around, f⟩, ht, hf⟩ := Option.map_eq_some_iff.mp ((g.lookup?_eq _).symm.trans hn)
  cases hf
  refine ⟨around, ht, fun codec buffer shift path v hv => Place.scalarsAt_of_trail? hv ht, ?_⟩
  intro layouts s record handle keys p v h hr hp hg hv
  subst hg
  have hs : p.spot? = none := by
    unfold Place.spot?
    split
    case _ hc =>
      rw [hc] at hn
      contradiction
    case _ => rfl
  have hh := has_of_lookup hr
  rw [(plainAt_eq h hh keys).left, Place.accessor, Place.navigate_of_locate hp hs, ok_bind] at hv
  obtain ⟨v', hv, he⟩ := map_eq_ok_iff.mp hv
  cases he
  obtain ⟨hshown, hhidden⟩ := Place.scalarsAt_of_trail? hv ht
  refine ⟨fun hl => ?_, hhidden⟩
  obtain ⟨w, hw, hread⟩ := hshown hl
  refine ⟨w, hw, ?_⟩
  rw [(getAt_eq h hh _).left, Place.navigate_append hp hs, hread]
  rfl

end Session

namespace Layout

-- The layout of `01 R. 05 G. 10 A PIC X. 05 G. 10 B PIC X.`
def twice : Layout where
  length := 2
  members := [.group ⟨"R".toList, 0, none, none, none⟩ 2 [
    .group ⟨"G".toList, 0, none, none, none⟩ 1 [.field ⟨"A".toList, 0, none, none, none⟩ (.text 1 false)],
    .group ⟨"G".toList, 1, none, none, none⟩ 1 [.field ⟨"B".toList, 1, none, none, none⟩ (.text 1 false)]]]
  declarations := [
    ⟨1, "R".toList, none, none, none, none, none, none, none, "01 R".toList⟩,
    ⟨5, "G".toList, none, none, none, none, some "R".toList, none, none, "05 G".toList⟩,
    ⟨10, "A".toList, some "X".toList, none, none, none, some "G".toList, none, none, "10 A PIC X".toList⟩,
    ⟨5, "G".toList, none, none, none, none, some "R".toList, none, none, "05 G".toList⟩,
    ⟨10, "B".toList, some "X".toList, none, none, none, some "G".toList, none, none, "10 B PIC X".toList⟩]
  codec := {}

theorem twice_isCompiled : twice.IsCompiled :=
  ⟨[], by with_unfolding_all rfl⟩

-- The layout of `01 R. 05 FILLER. 10 A PIC X.`
def hidden : Layout where
  length := 1
  members := [.group ⟨"R".toList, 0, none, none, none⟩ 1 [
    .group ⟨"FILLER".toList, 0, none, none, none⟩ 1 [.field ⟨"A".toList, 0, none, none, none⟩ (.text 1 false)]]]
  declarations := [
    ⟨1, "R".toList, none, none, none, none, none, none, none, "01 R".toList⟩,
    ⟨5, "FILLER".toList, none, none, none, none, some "R".toList, none, none, "05 FILLER".toList⟩,
    ⟨10, "A".toList, some "X".toList, none, none, none, some "FILLER".toList, none, none, "10 A PIC X".toList⟩]
  codec := {}

theorem hidden_isCompiled : hidden.IsCompiled :=
  ⟨[], by with_unfolding_all rfl⟩

end Layout

namespace Session

-- Both fields are read by their names, and the value shows the one in the first `G`.
theorem twice_exported :
    let s := ((start [Layout.twice]).stepWith .remembering (.makeRecord "r".toList 0 (.copy [0xc1, 0xc2]))).2
    let v : Value := .record [("G".toList, .record [("A".toList, .text "A".toList)])]
    (s.plainAt "r".toList [.text "R".toList]).1 = .ok (.value v) ∧
      v.scalarsAt [.name "G".toList, .name "A".toList] = [.text "A".toList] ∧
      (s.getAt "r".toList [.text "R".toList, .text "A".toList]).1 = .ok (.found (.value (.text "A".toList))) ∧
      v.scalarsAt [.name "G".toList, .name "B".toList] = [] := by
  intro s v
  have h : s.Reachable [Layout.twice] := .step _ .start
  have hr : s.records.lookup "r".toList = some ⟨Layout.twice, 0, {}⟩ := rfl
  have hv : (s.plainAt "r".toList [.text "R".toList]).1 = .ok (.value v) := by with_unfolding_all rfl
  have hp : (Place.root Layout.twice).locate [.text "R".toList] =
      .ok ⟨Layout.twice.members[0], 0, [.name "R".toList]⟩ := by
    with_unfolding_all rfl
  have hna : Layout.twice.members[0].lookup? (normalizeName "A".toList) =
      some (.field ⟨"A".toList, 0, none, none, none⟩ (.text 1 false)) := by with_unfolding_all rfl
  have hnb : Layout.twice.members[0].lookup? (normalizeName "B".toList) =
      some (.field ⟨"B".toList, 1, none, none, none⟩ (.text 1 false)) := by with_unfolding_all rfl
  have ⟨_, ht, _, ha⟩ := addressable_exported hna
  have ⟨_, ht', _, hb⟩ := addressable_exported hnb
  cases ht
  cases ht'
  have ⟨w, hw, hg⟩ := (ha _ _ _ _ _ _ _ h hr hp rfl hv).left ⟨List.mem_cons_self, trivial⟩
  have hf : Layout.twice.members[0].fields = [Layout.twice.members[0].members[0]] := by with_unfolding_all rfl
  have hn := (hb _ _ _ _ _ _ _ h hr hp rfl hv).right fun hl => by
    have hm := hl.left
    rw [hf] at hm
    cases List.mem_singleton.mp hm
  cases hw
  exact ⟨hv, rfl, hg, hn⟩

end Session

namespace Layout

-- Every name in a group of a record that means a field is that of one scalar in the value of the group.
def ShowsAll (layout : Layout) : Prop :=
  ∀ g name item type, layout.root.Within g → g.lookup? (normalizeName name) = some (.field item type) →
    ∀ buffer shift path v, Place.toValue (.now layout.codec buffer) ⟨g, shift, path⟩ = .ok v →
      ∃ way w, way.getLast? = some (.name (normalizeName name)) ∧ v.scalarsAt way = [w] ∧
        Place.navigate (.now layout.codec buffer) ⟨g, shift, path⟩ [.text name] = .ok (.value w)

-- What is in a filler or in a namesake of a field before it has a name and is not shown.
theorem not_every_name_shown :
    (hidden.IsCompiled ∧ ¬hidden.ShowsAll) ∧ twice.IsCompiled ∧ ¬twice.ShowsAll := by
  refine ⟨⟨hidden_isCompiled, fun h => ?filler⟩, twice_isCompiled, fun h => ?namesake⟩
  case filler =>
    have hv : (Place.root hidden).toValue (.now {} [0xc1]) = .ok (.record [("R".toList, .record [])]) := by
      with_unfolding_all rfl
    have ⟨_, _, _, hw, _⟩ := h hidden.root "A".toList _ _ .root (by with_unfolding_all rfl) [0xc1] 0 [] _ hv
    contradiction
  case namesake =>
    have hv : (Place.root twice).toValue (.now {} [0xc1, 0xc2]) =
        .ok (.record [("R".toList, .record [("G".toList, .record [("A".toList, .text "A".toList)])])]) := by
      with_unfolding_all rfl
    have ⟨way, w, hlast, hw, _⟩ :=
      h twice.root "B".toList _ _ .root (by with_unfolding_all rfl) [0xc1, 0xc2] 0 [] _ hv
    cases List.mem_singleton.mp (Value.mem_leaves_of_scalarsAt hw)
    contradiction

end Layout
end Copybook
