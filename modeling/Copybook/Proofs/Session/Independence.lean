import Copybook.Proofs.Bytes
import Copybook.Proofs.Layout.Containment
import Copybook.Proofs.Session.Access

/-!
Fields without a byte in common are independent of each other: they can be set in any order, each is read back as
it was set, and setting one again leaves no trace of what was there before. All that this takes is that an encoded
value has exactly the bytes of its field.
-/

namespace Copybook

open Bytes (Apart splice slice)

namespace Spot

variable {s : Spot} {codec : Codec} {buffer b : Bytes} {v : Value}

-- A value is stored as these bytes, which are as many as the field has.
def Stores (s : Spot) (codec : Codec) (v : Value) (b : Bytes) : Prop :=
  s.type.encode codec v = .ok b ∧ s.start + b.length = s.stop

theorem write_stores (hb : s.Stores codec v b) (hl : s.stop ≤ buffer.length) :
    s.write codec buffer v = .ok (splice buffer s.start s.stop b) := by
  rw [write, Spot.bytes, if_neg (by omega), hb.left]
  rfl

theorem read_eq (hl : s.stop ≤ buffer.length) : s.read codec buffer = s.decode codec (slice buffer s.start s.stop) := by
  rw [read, Spot.bytes, if_neg (by omega)]
  rfl

end Spot

namespace Node

mutual

-- Whether every number in a node has a digit.
def hasDigits : Node → Bool
  | field _ type => match type with
    | .text .. => true
    | .number _ shape => 0 < shape.digits
  | group _ _ members => haveDigits members
  | array _ element => element.hasDigits

def haveDigits : List Node → Bool
  | [] => true
  | n :: ns => n.hasDigits && haveDigits ns

end

theorem hasDigits_of_mem {n : Node} {ns : List Node} (h : haveDigits ns) (hn : n ∈ ns) : n.hasDigits := by
  induction ns
  case nil => contradiction
  case cons m ms hi =>
    rw [haveDigits, Bool.and_eq_true] at h
    cases List.mem_cons.mp hn
    case inl hn => exact hn ▸ h.left
    case inr hn => exact hi h.right hn

theorem Within.hasDigits {root n : Node} (h : root.Within n) (hd : root.hasDigits) : n.hasDigits := by
  induction h
  case root => exact hd
  case member hm hi => exact hasDigits_of_mem hi hm
  case element hi => exact hi

theorem hasDigits_of_field {item : Item} {type : FieldType} (h : (field item type).hasDigits) : type.HasDigits := by
  cases type
  case text => trivial
  case number storage shape => exact of_decide_eq_true (p := 0 < shape.digits) h

end Node

namespace Layout

variable {layout : Layout} {path : List Value} {spot : Spot} {page : CodePage} {v : Value} {b : Bytes}

theorem within_of_fieldAt? (h : layout.fieldAt? path = some spot) :
    layout.root.Within (.field spot.item spot.type) := by
  have ⟨q, hq, hs⟩ := Option.bind_eq_some_iff.mp h
  have hq : (Place.root layout).locate path = .ok q := by
    cases hl : (Place.root layout).locate path <;> rw [hl] at hq
    case error => contradiction
    case ok => exact congrArg _ (Option.some.inj hq)
  have ho := ((Place.root_occursIn layout).locate hq).within
  unfold Place.spot? at hs
  split at hs <;> cases hs
  case _ hn => rwa [hn] at ho

-- In a code page with a byte for each digit every encoded value has the bytes of its field.
theorem stores_of_encode (hc : layout.codec.Plain) (hp : CodePage.ofName? layout.codec.page = some page)
    (hu : page ≠ .utf16) (hd : layout.root.hasDigits) (hf : layout.fieldAt? path = some spot)
    (hb : spot.type.encode layout.codec v = .ok b) : spot.Stores layout.codec v b := by
  have hw := Node.hasDigits_of_field <| (within_of_fieldAt? hf).hasDigits hd
  exact ⟨hb, congrArg _ <| FieldType.length_encode hc hp hu hw hb⟩

-- Two fields that do not lie over other ones have no byte in common, nor have two occurrences of one.
theorem IsCompiled.tiles_apart (h : layout.IsCompiled) : layout.tiles.Pairwise fun t u =>
    Apart (t.1.offset + t.2) (t.1.offset + t.2 + t.1.length) (u.1.offset + u.2) (u.1.offset + u.2 + u.1.length) := by
  refine List.pairwise_iff_forall_sublist.mpr fun {t u} hs i hi hi' hj => ?_
  have ht : Node.covers i t := by simp [Node.covers, between, hi, hi']
  have hu : Node.covers i u := by simp [Node.covers, between, hj]
  have hle := hs.countP_le (p := Node.covers i)
  rw [h.count_tiles, List.countP_cons_of_pos ht, List.countP_cons_of_pos hu] at hle
  split at hle <;> omega

end Layout

namespace Session

variable {s : Session} {layouts : List Layout} {record : Text} {layout : Layout} {j : Nat} {buffers : List Bytes}
  {buffer b c : Bytes} {path path' : List Value} {spot spot' : Spot} {v w : Value}

theorem has_bytes {handle : Handle} (h : s.Reachable layouts) (hr : s.records.lookup record = some handle) :
    s.Has record handle.layout handle.buffer (s.buffers.set handle.buffer (s.bytes handle.buffer)) := by
  have hb := setBuffer_bytes (h.bound.record _ (Memory.mem_of_lookup hr))
  rw [setBuffer] at hb
  exact ⟨hb.symm, handle.memory, hr⟩

section Steps

variable (h : s.Reachable layouts) (hs : s.Has record layout j (buffers.set j buffer))

include h hs

theorem getD_set : (buffers.set j buffer).getD j [] = buffer := by
  have hj := hs.lt h
  rw [List.length_set] at hj
  simp [hj]

theorem getAt_field (hf : layout.fieldAt? path = some spot) (hl : spot.stop ≤ buffer.length) :
    (s.getAt record path).1 =
      (spot.decode layout.codec (slice buffer spot.start spot.stop)).map fun v => .found (.value v) := by
  rw [(getAt_eq h hs path).left, getD_set h hs, Layout.navigate_field hf, Spot.read_eq hl]
  cases spot.decode layout.codec (slice buffer spot.start spot.stop) <;> rfl

theorem setAt_stores (hf : layout.fieldAt? path = some spot) (hb : spot.Stores layout.codec v b)
    (hl : spot.stop ≤ buffer.length) :
    (s.setAt record path v).1.isOk ∧
      (s.setAt record path v).2.Has record layout j (buffers.set j (splice buffer spot.start spot.stop b)) := by
  have ⟨hr, hs'⟩ := setAt_eq h hs path v
  rw [getD_set h hs, Layout.put_field hf, Spot.write_stores hb hl] at hr hs'
  rw [List.set_set] at hs'
  exact ⟨hr ▸ rfl, hs'⟩

theorem encode_of_setAt (hf : layout.fieldAt? path = some spot) (ho : (s.setAt record path v).1.isOk) :
    ∃ b, spot.type.encode layout.codec v = .ok b ∧ spot.stop ≤ buffer.length := by
  have ⟨hr, _⟩ := setAt_eq h hs path v
  rw [getD_set h hs, Layout.put_field hf] at hr
  cases hw : spot.write layout.codec buffer v <;> rw [hw] at hr
  case error =>
    rw [hr] at ho
    contradiction
  case ok =>
    have ⟨b, hb, hl, _⟩ := Spot.write_eq_ok hw
    exact ⟨b, hb, hl⟩

-- Two fields that are apart, set one after the other: both have what they were set to.
theorem setAt_setAt (hf : layout.fieldAt? path = some spot) (hf' : layout.fieldAt? path' = some spot')
    (ha : Apart spot.start spot.stop spot'.start spot'.stop) (hb : spot.Stores layout.codec v b)
    (hc : spot'.Stores layout.codec w c) (hl : spot.stop ≤ buffer.length) (hl' : spot'.stop ≤ buffer.length) :
    let outcome := (s.setAt record path v).2.setAt record path' w
    outcome.1.isOk ∧
      outcome.2.buffers =
        buffers.set j (splice (splice buffer spot.start spot.stop b) spot'.start spot'.stop c) ∧
      (outcome.2.getAt record path).1 = (spot.decode layout.codec b).map (fun v => .found (.value v)) ∧
      (outcome.2.getAt record path').1 = (spot'.decode layout.codec c).map fun v => .found (.value v) := by
  have hn := Bytes.length_splice_of_span hb.right hl
  have ⟨_, hs⟩ := setAt_stores h hs hf hb hl
  have h := h.setAt record path v
  have hl'' : spot'.stop ≤ (splice buffer spot.start spot.stop b).length := hn ▸ hl'
  have ⟨ho, hs⟩ := setAt_stores h hs hf' hc hl''
  have h := h.setAt record path' w
  have hn' := Bytes.length_splice_of_span hc.right hl''
  refine ⟨ho, hs.left, ?_, ?_⟩
  · rw [getAt_field h hs hf (by omega), Bytes.slice_splice_of_apart hc.right hl'' ha.symm,
      Bytes.slice_splice_self hb.right hl]
  · rw [getAt_field h hs hf' (by omega), Bytes.slice_splice_self hc.right hl'']

-- A field that is set again is as if it had been set only then.
theorem setAt_again (hf : layout.fieldAt? path = some spot) (hb : spot.Stores layout.codec v b)
    (hc : spot.Stores layout.codec w c) (hl : spot.stop ≤ buffer.length) :
    let outcome := (s.setAt record path v).2.setAt record path w
    outcome.1.isOk ∧ outcome.2.buffers = (s.setAt record path w).2.buffers := by
  have hn := Bytes.length_splice_of_span hb.right hl
  have ⟨_, hs'⟩ := setAt_stores h hs hf hb hl
  have ⟨ho, hs'⟩ := setAt_stores (h.setAt record path v) hs' hf hc (hn ▸ hl)
  have ⟨_, hs⟩ := setAt_stores h hs hf hc hl
  rw [Bytes.splice_splice hb.right hl hc.right] at hs'
  exact ⟨ho, hs'.left.trans hs.left.symm⟩

end Steps

-- In a layout whose code page has a byte for each digit and whose numbers have a digit, two fields without a byte in
-- common can be set in either order and are then read as they were set, and setting a field again leaves the bytes
-- as if it had not been set before. Fields that neither redefine anything nor are part of something that does have
-- no byte in common.
theorem independent_sets {handle : Handle} {page : CodePage} (h : s.Reachable layouts)
    (hr : s.records.lookup record = some handle) (hl : handle.layout.IsCompiled)
    (hc : handle.layout.codec.Plain) (hp : CodePage.ofName? handle.layout.codec.page = some page)
    (hu : page ≠ .utf16) (hd : handle.layout.root.hasDigits) :
    (∀ path path' spot spot' v w, handle.layout.fieldAt? path = some spot →
      handle.layout.fieldAt? path' = some spot' → Apart spot.start spot.stop spot'.start spot'.stop →
      (s.setAt record path v).1.isOk → (s.setAt record path' w).1.isOk →
      let there := (s.setAt record path v).2.setAt record path' w
      let back := (s.setAt record path' w).2.setAt record path v
      there.1.isOk ∧ back.1.isOk ∧ there.2.buffers = back.2.buffers ∧
        ∃ b c, spot.type.encode handle.layout.codec v = .ok b ∧ spot'.type.encode handle.layout.codec w = .ok c ∧
          ∀ s' ∈ [there.2, back.2],
            (s'.getAt record path).1 = (spot.decode handle.layout.codec b).map (fun v => .found (.value v)) ∧
            (s'.getAt record path').1 = (spot'.decode handle.layout.codec c).map fun v => .found (.value v)) ∧
    (∀ path spot v w, handle.layout.fieldAt? path = some spot → (s.setAt record path v).1.isOk →
      (s.setAt record path w).1.isOk →
      let outcome := (s.setAt record path v).2.setAt record path w
      outcome.1.isOk ∧ outcome.2.buffers = (s.setAt record path w).2.buffers) ∧
    handle.layout.tiles.Pairwise fun t u => Apart (t.1.offset + t.2) (t.1.offset + t.2 + t.1.length)
      (u.1.offset + u.2) (u.1.offset + u.2 + u.1.length) := by
  have hs := has_bytes h hr
  have stores : ∀ {path spot v b}, handle.layout.fieldAt? path = some spot →
      spot.type.encode handle.layout.codec v = .ok b → spot.Stores handle.layout.codec v b :=
    Layout.stores_of_encode hc hp hu hd
  refine ⟨?_, ?_, hl.tiles_apart⟩
  · intro path path' spot spot' v w hf hf' ha hv hw there back
    have ⟨b, hb, hle⟩ := encode_of_setAt h hs hf hv
    have ⟨c, hc, hle'⟩ := encode_of_setAt h hs hf' hw
    have ⟨hb', hc'⟩ := And.intro (stores hf hb) (stores hf' hc)
    have ⟨ht, htb, htv, htw⟩ := setAt_setAt h hs hf hf' ha hb' hc' hle hle'
    have ⟨hk, hkb, hkw, hkv⟩ := setAt_setAt h hs hf' hf ha.symm hc' hb' hle' hle
    refine ⟨ht, hk, ?_, b, c, hb, hc, ?_⟩
    · rw [htb, hkb, Bytes.splice_comm hb'.right hle hc'.right hle' ha]
    · intro s' hs'
      simp only [List.mem_cons, List.not_mem_nil, or_false] at hs'
      rcases hs' with he | he <;> subst he
      · exact ⟨htv, htw⟩
      · exact ⟨hkv, hkw⟩
  · intro path spot v w hf hv hw
    have ⟨b, hb, hle⟩ := encode_of_setAt h hs hf hv
    have ⟨c, hc, _⟩ := encode_of_setAt h hs hf hw
    exact setAt_again h hs hf (stores hf hb) (stores hf hc) hle

-- The second `A` of the sample and its `C` are set in both orders.
theorem sample_independent :
    let s := ((start [Layout.sample]).stepWith .remembering
      (.makeRecord "r".toList 0 (.copy [0xf1, 0xf2, 0xf3, 0xf4, 0xf5]))).2
    let a : List Value := [.text "A".toList, .int 1]
    let c : List Value := [.text "C".toList]
    s.records.lookup "r".toList = some ⟨Layout.sample, 0, {}⟩ ∧ Layout.sample.root.hasDigits ∧
      ((s.setAt "r".toList a (.int 7)).2.setAt "r".toList c (.text "Z".toList)).2.buffers =
        ((s.setAt "r".toList c (.text "Z".toList)).2.setAt "r".toList a (.int 7)).2.buffers := by
  intro s a c
  have h : s.Reachable [Layout.sample] := .step _ .start
  have hr : s.records.lookup "r".toList = some ⟨Layout.sample, 0, {}⟩ := rfl
  have hd : Layout.sample.root.hasDigits := by decide
  have hu : CodePage.cp037 ≠ .utf16 := nofun
  have ⟨hi, _⟩ := independent_sets h hr Layout.sample_isCompiled ⟨rfl, rfl⟩ (by cbv) hu hd
  have ha : Layout.sample.fieldAt? a = some ⟨⟨"A".toList, 0, none, none, none⟩, .number .zoned ⟨2, 0, false⟩, 2,
      [.name "A".toList, .position 1]⟩ := by cbv
  have hc : Layout.sample.fieldAt? c = some ⟨⟨"C".toList, 4, none, none, none⟩, .text 1 false, 0,
      [.name "C".toList]⟩ := by cbv
  have apart : Apart 2 4 4 5 := fun i _ _ => by omega
  obtain ⟨_, _, he, _⟩ := hi a c _ _ (.int 7) (.text "Z".toList) ha hc apart (by decide +kernel) (by decide +kernel)
  exact ⟨hr, hd, he⟩

end Session
end Copybook
