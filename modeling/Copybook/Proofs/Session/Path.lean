import Copybook.Proofs.Layout.Path
import Copybook.Proofs.Session.Access

/-!
A field is read and written where the path to it is found. A path finds nothing exactly if no accessor is reached by
its names and indexes.
-/

namespace Copybook

namespace Place

variable {p : Place} {codec : Codec} {buffer : Bytes}

-- Keys that lead nowhere cannot be navigated, whatever is read on the way.
theorem navigate_error {keys : List Value} {e : AccessFault} (h : p.locate keys = .error e) :
    ∃ e, p.navigate (.now codec buffer) keys = .error e := by
  induction keys generalizing p
  case nil => contradiction
  case cons key keys hi =>
    rw [locate_cons] at h
    rw [navigate, get_now]
    rcases bind_eq_error_iff.mp h with h | ⟨q, hq, h⟩
    case inl =>
      rw [h]
      exact ⟨e, rfl⟩
    case inr =>
      rw [hq, ok_bind, fetch]
      cases hs : q.spot?
      case none =>
        obtain ⟨e, he⟩ := hi h
        exact ⟨e, he⟩
      case some spot =>
        cases keys
        case nil => contradiction
        case cons =>
          simp only
          generalize (Reach.now codec buffer).value spot = value
          cases value
          case error e => exact ⟨e, rfl⟩
          case ok v => exact ⟨.notAccessor, rfl⟩

end Place

namespace Session

variable {s : Session} {layouts : List Layout} {record : Text} {handle : Handle} {steps : List PathStep}

-- In a record of a copybook that has been read, a path finds what its names and indexes lead to and where that is. A
-- field that has been found is read and written there, any other node is what the accessor stands at, and what has
-- not been found cannot be got.
theorem found_where_accessed {statements : List Text} {codec : Codec} {notices : List Notice}
    (h : s.Reachable layouts) (hr : s.records.lookup record = some handle)
    (hl : (Layout.ofStatements statements codec).result = (.ok handle.layout, notices)) (hn : steps ≠ [])
    (hs : ∀ st ∈ steps, st.IsProper) :
    let found := handle.layout.find (PathStep.path steps)
    let keys := steps.flatMap PathStep.keys
    let buffer := s.bytes handle.buffer
    (∀ n start, found = .ok (n, start) ↔ ∃ p, (Place.root handle.layout).locate keys = .ok p ∧ p.node = n ∧
      p.node.offset + p.shift = start) ∧
    (∀ item type start, found = .ok (.field item type, start) → ∃ spot : Spot, spot.item = item ∧ spot.type = type ∧
      spot.start = start ∧
      (s.getAt record keys).1 = (spot.read handle.layout.codec buffer).map (fun v => .found (.value v)) ∧
      ∀ v, (s.setAt record keys v).1 = (spot.write handle.layout.codec buffer v).map (fun _ => .done) ∧
        (s.setAt record keys v).2.bytes handle.buffer =
          (spot.write handle.layout.codec buffer v).toOption.getD buffer) ∧
    (∀ n start, found = .ok (n, start) → (∀ item type, n ≠ .field item type) →
      ∃ p, (s.getAt record keys).1 = .ok (.found (.accessor p)) ∧ p.node = n ∧ n.offset + p.shift = start) ∧
    (∀ e, found = .error e → ∃ e, (s.getAt record keys).1 = .error e) := by
  intro found keys buffer
  have hf {n : Node} {start : Nat} : found = .ok (n, start) ↔ ∃ p, (Place.root handle.layout).locate keys = .ok p ∧
      p.node = n ∧ p.node.offset + p.shift = start :=
    Layout.find_eq_ok_iff (Layout.indexable_of_ofStatements hl) hn hs
  have hh := has_of_lookup hr
  refine ⟨fun _ _ => hf, fun item type start he => ?field, fun n start he hne => ?node, fun e he => ?nothing⟩
  case field =>
    obtain ⟨p, hp, hpn, ho⟩ := hf.mp he
    have hspot : handle.layout.fieldAt? keys = some ⟨item, type, p.shift, p.path⟩ := by
      rw [Layout.fieldAt?, hp]
      simp [Except.toOption, Place.spot?, hpn]
    refine ⟨⟨item, type, p.shift, p.path⟩, rfl, rfl, ?_, ?_, fun v => ?_⟩
    · rw [hpn] at ho
      exact ho
    · have hget := (getAt_eq h hh keys).left
      rw [Layout.navigate_field hspot] at hget
      exact hget.trans (map_map ..)
    · obtain ⟨hset, hbytes, _⟩ := setAt_eq h hh keys v
      rw [Layout.put_field hspot] at hset hbytes
      refine ⟨hset, ?_⟩
      rw [bytes, hbytes, List.getD_eq_getElem?_getD, List.getElem?_set_self (hh.lt h)]
      rfl
  case node =>
    obtain ⟨p, hp, hpn, ho⟩ := hf.mp he
    have hspot : p.spot? = none := by
      cases hc : p.node
      case field => exact (hne _ _ (hpn ▸ hc)).elim
      all_goals simp [Place.spot?, hc]
    refine ⟨p, ?_, hpn, hpn ▸ ho⟩
    rw [(getAt_eq h hh keys).left, Place.navigate_of_locate hp hspot]
    rfl
  case nothing =>
    cases hp : (Place.root handle.layout).locate keys
    case error =>
      obtain ⟨e, he⟩ : ∃ e, (Place.root handle.layout).navigate (.now handle.layout.codec buffer) keys = .error e :=
        Place.navigate_error hp
      refine ⟨e, (getAt_eq h hh keys).left.trans ?_⟩
      exact congrArg (·.map Reply.found) he
    case ok p => cases he.symm.trans (hf.mpr ⟨p, hp, rfl, rfl⟩)

-- The `C` in the last `G` is redefined over the third byte, whose digit is 3.
theorem nest_found :
    let s := ((start [Layout.nest]).stepWith .remembering
      (.makeRecord "r".toList 0 (.copy [0xf1, 0xf2, 0xf3, 0xf4, 0xf5]))).2
    let steps : List PathStep := [⟨"G".toList, [-1]⟩, ⟨"C".toList, []⟩]
    (∀ st ∈ steps, st.IsProper) ∧
      (Layout.ofStatements (Layout.nest.declarations.map (·.line)) {}).result = (.ok Layout.nest, []) ∧
      s.records.lookup "r".toList = some ⟨Layout.nest, 0, {}⟩ ∧
      PathStep.path steps = "G[-1].C".toList ∧ Layout.nest.find "G[-1].C".toList = .ok
        (.field ⟨"C".toList, 0, none, none, none⟩ (.number .zoned ⟨1, 0, false⟩), 2) ∧
      (s.getAt "r".toList (steps.flatMap PathStep.keys)).1 = .ok (.found (.value (.int 3))) := by
  intro s steps
  have h : s.Reachable [Layout.nest] := .step _ .start
  have hr : s.records.lookup "r".toList = some ⟨Layout.nest, 0, {}⟩ := rfl
  have hs : ∀ st ∈ steps, st.IsProper := by decide
  have hl : (Layout.ofStatements (Layout.nest.declarations.map (·.line)) {}).result = (.ok Layout.nest, []) := by
    rw [Layout.ofStatements, Layout.declarations_nest]
    exact Layout.nest_compiles
  have hf : Layout.nest.find "G[-1].C".toList = .ok
      (.field ⟨"C".toList, 0, none, none, none⟩ (.number .zoned ⟨1, 0, false⟩), 2) := by
    cbv
  obtain ⟨_, hfield, _⟩ := found_where_accessed h hr hl (by decide : steps ≠ []) hs
  obtain ⟨⟨_, _, shift, path⟩, rfl, rfl, ho, hget, _⟩ := hfield _ _ _ hf
  obtain rfl : shift = 2 := by simpa [Spot.start] using ho
  exact ⟨hs, hl, hr, rfl, hf, hget.trans rfl⟩

end Session
end Copybook
