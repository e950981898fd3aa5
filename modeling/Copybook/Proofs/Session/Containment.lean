import Copybook.Proofs.Layout.Containment
import Copybook.Proofs.Session.Access

/-!
A record that is as long as its layout has the bytes of every field that a path means, wherever it is, unless a
redefinition was noticed to be longer than what it redefines.
-/

namespace Copybook

-- A failure that is not for want of bytes.
def AccessFault.InRange (e : AccessFault) : Prop :=
  e.kind ≠ .recordLength

theorem AccessFault.notAccessor_inRange : notAccessor.InRange :=
  nofun

theorem FaultKind.showing_ne_recordLength {kind : FaultKind} (h : kind ≠ recordLength) (v : Value) :
    kind.showing v ≠ recordLength := by
  rcases showing_eq kind v with hk | hk <;> rw [hk]
  · exact h
  · nofun

theorem FieldFault.kind_ne_recordLength (fault : FieldFault) : fault.kind ≠ .recordLength := by
  cases fault
  case negative v | tooManyDigits v _ _ | notNumeric v | notFinite v =>
    exact FaultKind.showing_ne_recordLength (by decide) v
  case arithmetic fault => cases fault <;> nofun
  all_goals nofun

-- Every part of a node has its bytes in a buffer.
def Node.Covered (root : Node) (buffer : Bytes) : Prop :=
  ∀ n shift, root.Occurs n shift → n.offset + shift + n.length ≤ buffer.length

namespace Place

variable {root : Node} {p q : Place} {s : Spot} {codec : Codec} {buffer : Bytes}

theorem stop_le_of_spot? (hb : root.Covered buffer) (hp : p.OccursIn root) (hs : p.spot? = some s) :
    s.stop ≤ buffer.length := by
  have := hb _ _ hp
  unfold spot? at hs
  split at hs <;> cases hs
  case _ item type hn =>
    rw [hn] at this
    exact this

theorem bytes_inRange (hb : root.Covered buffer) (hp : p.OccursIn root) (hs : p.spot? = some s) :
    Ends (fun _ => True) AccessFault.InRange (s.bytes buffer) := by
  have := stop_le_of_spot? hb hp hs
  rw [Spot.bytes, if_neg (by omega)]
  trivial

theorem read_inRange (hb : root.Covered buffer) (hp : p.OccursIn root) (hs : p.spot? = some s) :
    Ends (fun _ => True) AccessFault.InRange (s.read codec buffer) := by
  refine (bytes_inRange hb hp hs).bind fun raw _ => ?_
  rw [Spot.decode]
  cases s.type.decode codec raw
  case error fault => exact fault.kind_ne_recordLength
  case ok => trivial

theorem write_inRange (hb : root.Covered buffer) (hp : p.OccursIn root) (hs : p.spot? = some s) (v : Value) :
    Ends (fun _ => True) AccessFault.InRange (s.write codec buffer v) := by
  refine (bytes_inRange hb hp hs).bind fun raw _ => ?_
  cases s.type.encode codec v
  case error fault => exact fault.kind_ne_recordLength
  case ok => trivial

theorem resolve_inRange (hp : p.OccursIn root) (key : Value) :
    Ends (·.OccursIn root) AccessFault.InRange (p.resolve key) := by
  cases hr : p.resolve key
  case ok q => exact hp.resolve hr
  case error e =>
    cases hs : p.spot?
    case none =>
      rw [Ends, AccessFault.InRange, resolve_kind hs hr]
      exact FaultKind.showing_ne_recordLength (by decide) key
    case some s =>
      cases hr.symm.trans (resolve_of_spot? hs key)
      exact AccessFault.notAccessor_inRange

theorem assignee_inRange (hp : p.OccursIn root) (key v : Value) :
    Ends (fun s => ∃ q : Place, q.OccursIn root ∧ q.spot? = some s) AccessFault.InRange (p.assignee key v) := by
  refine (resolve_inRange hp key).bind fun q hq => ?_
  cases hs : q.spot?
  case some s => exact ⟨q, hq, hs⟩
  case none =>
    simp only
    split
    · exact FaultKind.showing_ne_recordLength (by decide) v
    · exact FaultKind.showing_ne_recordLength (by decide) v
    · exact AccessFault.notAccessor_inRange

theorem fetch_inRange (hb : root.Covered buffer) (hp : p.OccursIn root) :
    Ends (Found.Satisfies (·.OccursIn root)) AccessFault.InRange (p.fetch (.now codec buffer)) := by
  unfold fetch
  split
  case _ s hs => exact (read_inRange hb hp hs).map fun _ _ => trivial
  case _ => exact hp

-- Keys lead to accessors of parts of the record, or fail for other reasons than want of bytes.
theorem navigate_inRange (hb : root.Covered buffer) (hp : p.OccursIn root) (keys : List Value) :
    Ends (Found.Satisfies (·.OccursIn root)) AccessFault.InRange (p.navigate (.now codec buffer) keys) := by
  induction keys generalizing p
  case nil => exact hp
  case cons key keys hi =>
    rw [navigate, get_now]
    refine Ends.bind ((resolve_inRange hp key).bind fun q => fetch_inRange hb) fun f hf => ?_
    split
    · exact hi hf
    · trivial
    · exact AccessFault.notAccessor_inRange

end Place

namespace Layout

variable {layout : Layout} {buffer : Bytes}

theorem IsSnug.covered (h : layout.IsSnug) (hb : layout.length ≤ buffer.length) : layout.root.Covered buffer :=
  fun _ _ hn => Nat.le_trans (h.occurs_end_le hn) hb

theorem put_inRange (hb : layout.root.Covered buffer) (path : List Value) (v : Value) :
    Ends (fun _ => True) AccessFault.InRange (layout.put buffer path v) := by
  unfold put
  split
  case _ => exact AccessFault.notAccessor_inRange
  case _ key _ =>
    refine Ends.bind ?_ fun p (hp : p.OccursIn layout.root) => ?_
    · refine (Place.navigate_inRange hb (Place.root_occursIn layout) path.dropLast).bind fun f hf => ?_
      split
      · exact hf
      · exact AccessFault.notAccessor_inRange
    · refine (Place.assignee_inRange hp key v).bind fun s ⟨q, hq, hs⟩ => ?_
      exact Place.write_inRange hb hq hs v

end Layout

namespace Session

variable {s : Session} {layouts : List Layout} {record : Text} {handle : Handle}

-- In a record whose layout has no redefinition longer than what it redefines, all parts in all their occurrences
-- lie within the length of the layout, and over as many bytes nothing is ever out of reach.
theorem snug_in_range (h : s.Reachable layouts) (hr : s.records.lookup record = some handle)
    (hl : handle.layout.IsSnug) (hb : handle.layout.length ≤ (s.bytes handle.buffer).length) :
    (∀ n shift, handle.layout.root.Occurs n shift → n.offset + shift + n.length ≤ handle.layout.length) ∧
      (∀ path e, (s.getAt record path).1 = .error e → e.kind ≠ .recordLength) ∧
      ∀ path v e, (s.setAt record path v).1 = .error e → e.kind ≠ .recordLength := by
  have hc := hl.covered hb
  have hs := has_of_lookup hr
  refine ⟨fun _ _ => hl.occurs_end_le, fun path e he => ?_, fun path v e he => ?_⟩
  · rw [(getAt_eq h hs path).left, map_eq_error_iff] at he
    exact (Place.navigate_inRange hc (Place.root_occursIn handle.layout) path).error he
  · rw [(setAt_eq h hs path v).left, map_eq_error_iff] at he
    exact (Layout.put_inRange hc path v).error he

-- The sample has a redefinition, which is shorter than what it redefines.
theorem sample_in_range :
    let s := ((start [Layout.sample]).stepWith .remembering
      (.makeRecord "r".toList 0 (.copy [0xf1, 0xf2, 0xf3, 0xf4, 0xf5]))).2
    s.records.lookup "r".toList = some ⟨Layout.sample, 0, {}⟩ ∧ Layout.sample.IsSnug ∧
      ∀ path e, (s.getAt "r".toList path).1 = .error e → e.kind ≠ .recordLength := by
  intro s
  have h : s.Reachable [Layout.sample] := .step _ .start
  have hr : s.records.lookup "r".toList = some ⟨Layout.sample, 0, {}⟩ := rfl
  have ⟨_, hg, _⟩ := snug_in_range h hr Layout.sample_isSnug (by decide)
  exact ⟨hr, Layout.sample_isSnug, hg⟩

end Session
end Copybook
