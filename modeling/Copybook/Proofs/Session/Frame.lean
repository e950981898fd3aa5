import Copybook.Proofs.Except
import Copybook.Proofs.Field.Width
import Copybook.Proofs.Layout.Placement
import Copybook.Proofs.Session.Transparency

/-!
What setting a field changes. A value that takes the bytes of its field leaves all others where they are; one that
does not moves what comes after the field.
-/

namespace Copybook

namespace Bytes

-- There are as many bytes as before, and those outside of a span are the same.
def Kept (start stop : Nat) (b b' : Bytes) : Prop :=
  b'.length = b.length ∧ ∀ i, i < start ∨ stop ≤ i → b'[i]? = b[i]?

theorem kept_splice_iff (new : Bytes) {b : Bytes} {start stop : Nat} (hs : start ≤ stop) (h : stop ≤ b.length) :
    Kept start stop b (splice b start stop new) ↔ new.length = stop - start := by
  have hl : (b.take start).length = start := by
    rw [List.length_take]
    omega
  have hn : (splice b start stop new).length = start + new.length + (b.length - stop) := by
    rw [splice, List.length_append, List.length_append, hl, List.length_drop, Nat.max_eq_right hs]
  constructor
  case mp =>
    intro hk
    have := hk.left
    omega
  case mpr =>
    intro hw
    refine ⟨by omega, fun i hi => ?_⟩
    rw [splice, Nat.max_eq_right hs]
    cases hi
    case inl hi =>
      rw [List.append_assoc, List.getElem?_append_left (by omega), List.getElem?_take_of_lt hi]
    case inr hi =>
      rw [List.getElem?_append_right (by rw [List.length_append]; omega), List.getElem?_drop]
      congr 1
      rw [List.length_append]
      omega

end Bytes

namespace Spot

variable {s : Spot} {codec : Codec} {buffer b' : Bytes} {v : Value}

-- A value is only written into bytes that are there.
theorem write_eq_ok (h : s.write codec buffer v = .ok b') :
    ∃ b, s.type.encode codec v = .ok b ∧ s.stop ≤ buffer.length ∧ b' = Bytes.splice buffer s.start s.stop b := by
  have ⟨raw, hr, h⟩ := bind_eq_ok_iff.mp h
  have ⟨b, hb, h⟩ := bind_eq_ok_iff.mp h
  cases h
  refine ⟨b, mapError_eq_ok_iff.mp hb, ?_, rfl⟩
  unfold Spot.bytes at hr
  split at hr
  case isTrue => contradiction
  case isFalse => omega

end Spot

namespace Layout

-- The field that a path of names and indexes means.
def fieldAt? (layout : Layout) (path : List Value) : Option Spot :=
  ((Place.root layout).locate path).toOption.bind Place.spot?

theorem fieldAt?_of_assignee {layout : Layout} {path : List Value} {key v : Value} {q : Place} {s : Spot}
    (hq : (Place.root layout).locate path = .ok q) (hs : q.assignee key v = .ok s) :
    layout.fieldAt? (path ++ [key]) = some s := by
  have ⟨p, hp, hs⟩ := bind_eq_ok_iff.mp hs
  have hl : (Place.root layout).locate (path ++ [key]) = .ok p := by
    rw [Place.locate, List.foldlM_append, ←Place.locate, hq]
    simp [bind, Except.bind, pure, Except.pure, hp]
  rw [fieldAt?, hl]
  split at hs
  case _ s' hs' =>
    cases hs
    exact hs'
  case _ => split at hs <;> contradiction

end Layout

namespace Session

variable {s s' : Session} {layouts : List Layout} {record : Text} {handle : Handle}

-- A session that steps lead to.
inductive Reachable (layouts : List Layout) : Session → Prop
  | start : Reachable layouts (start layouts)
  | step {s : Session} (st : Step) : Reachable layouts s → Reachable layouts (s.stepWith .remembering st).2

-- The buffers of all records and names are there.
structure Bound (s : Session) : Prop where
  record : ∀ entry ∈ s.records, entry.2.buffer < s.buffers.length
  named : ∀ entry ∈ s.named, entry.2 < s.buffers.length

theorem mem_bind {α : Type} {name : Text} {a : α} {known : List (Text × α)} {entry : Text × α}
    (h : entry ∈ bind name a known) : entry = (name, a) ∨ entry ∈ known := by
  cases List.mem_cons.mp h
  case inl h => exact .inl h
  case inr h => exact .inr (List.mem_filter.mp h).left

theorem Bound.bind (h : s.Bound) (name : Text) (hb : handle.buffer < s.buffers.length) :
    Bound { s with records := Session.bind name handle s.records } where
  named := h.named
  record entry he := by
    cases mem_bind he
    case inl he => exact he ▸ hb
    case inr he => exact h.record entry he

theorem Bound.addBuffer (h : s.Bound) (b : Bytes) : (s.addBuffer b).1.Bound where
  named entry he := by
    have := h.named entry he
    simp [Session.addBuffer]
    omega
  record entry he := by
    have := h.record entry he
    simp [Session.addBuffer]
    omega

theorem makeRecord_bound (h : s.Bound) (name : Text) (layout : Layout) (o : Origin) :
    (s.makeRecord name layout o).2.Bound := by
  have new (b : Bytes) : s.buffers.length < (s.addBuffer b).1.buffers.length := by
    simp [Session.addBuffer]
  cases o <;> simp only [makeRecord]
  case fresh => exact (h.addBuffer _).bind name (new _)
  case copy data =>
    cases layout.check data
    case ok => exact (h.addBuffer _).bind name (new _)
    case error => exact h
  case shared buffer =>
    split
    case _ => exact h
    case _ number hn =>
      cases layout.check (s.bytes number)
      case ok => exact h.bind name <| h.named _ (Memory.mem_of_lookup hn)
      case error => exact h

theorem stepWith_bound (h : s.Bound) (read : Reader) (st : Step) : (s.stepWith read st).2.Bound := by
  cases st <;> simp only [stepWith]
  case makeBuffer name data =>
    refine ⟨(h.addBuffer data).record, fun entry he => ?_⟩
    cases mem_bind he
    case inl he => simp [he, Session.addBuffer]
    case inr he => exact (h.addBuffer data).named entry he
  case makeRecord name layout o =>
    split
    case _ => exact h
    case _ layout _ => exact makeRecord_bound h name layout o
  case change record c =>
    split
    case _ => exact h
    case _ handle hr =>
      have hb := h.record _ (Memory.mem_of_lookup hr)
      have hs (b : Bytes) : (s.setBuffer handle.buffer b).Bound := by
        refine ⟨fun entry he => ?_, fun entry he => ?_⟩ <;> simp only [setBuffer, List.length_set]
        · exact h.record entry he
        · exact h.named entry he
      exact (hs _).bind record (by simpa [setBuffer] using hb)
  case ask record path q =>
    split
    case _ => exact h
    case _ handle hr => exact h.bind record <| h.record _ (Memory.mem_of_lookup hr)

namespace Reachable

theorem bound (h : s.Reachable layouts) : s.Bound := by
  induction h
  case start => exact ⟨nofun, nofun⟩
  case step st _ hi => exact stepWith_bound hi _ st

theorem sound (h : s.Reachable layouts) : s.Sound := by
  induction h
  case start => exact start_sound layouts
  case step st _ hi => exact (stepWith_mirrored hi st).left

end Reachable

-- The field that the path means is written, or nothing is.
theorem change_set_writes {r r' : Reach Access} {codec : Codec} {layout : Layout}
    (hr : r.Agrees (Place.root layout) (Memory.Sound (Place.root layout) codec) r') (buffer : Bytes)
    (path : List Value) (v : Value) :
    Agree (Memory.Sound (Place.root layout) codec) (change r layout buffer (.set path v))
      (change r' layout buffer (.set path v)) fun outcome =>
        (∀ e, outcome.1 = .error e → outcome.2 = buffer) ∧
          (∀ u, outcome.1 = .ok u →
            ∃ spot, layout.fieldAt? path = some spot ∧ spot.write layout.codec buffer v = .ok outcome.2) := by
  simp only [change]
  split
  case _ => exact Agree.pure ⟨fun _ _ => rfl, fun _ h => by contradiction⟩
  case _ key hk =>
    obtain ⟨keys, hp⟩ := List.getLast?_eq_some_iff.mp hk
    subst hp
    rw [List.dropLast_concat]
    refine Agree.bind (set_agrees hr buffer keys key v) fun r hr => ?_
    cases r
    case error e => exact Agree.pure ⟨fun _ _ => rfl, fun _ h => by contradiction⟩
    case ok b =>
      obtain ⟨q, spot, hq, hs, hb⟩ := hr b rfl
      exact Agree.pure ⟨fun _ h => by contradiction, fun _ _ => ⟨spot, Layout.fieldAt?_of_assignee hq hs, hb⟩⟩

section Buffers

variable {j k : Nat}

theorem bytes_setBuffer (h : j < s.buffers.length) (b : Bytes) : (s.setBuffer j b).bytes j = b := by
  simp [setBuffer, bytes, h]

theorem bytes_setBuffer_of_ne (h : k ≠ j) (b : Bytes) : (s.setBuffer j b).bytes k = s.bytes k := by
  simp [setBuffer, bytes, h.symm]

theorem setBuffer_bytes (h : j < s.buffers.length) : (s.setBuffer j (s.bytes j)).buffers = s.buffers := by
  simp [setBuffer, bytes, h]

end Buffers

-- Setting a field touches the bytes of that record at most, and none if it fails. If it is done, the bytes around
-- the field stay where they are exactly if the encoding has as many bytes as the field, which is known beforehand
-- where no conversion of the caller's own is in use.
theorem set_frame {path : List Value} {v : Value} {reply : Except AccessFault Reply} (h : s.Reachable layouts)
    (hr : s.records.lookup record = some handle)
    (hs : s.stepWith .remembering (.change record (.set path v)) = (reply, s')) :
    (∀ k, k ≠ handle.buffer → s'.bytes k = s.bytes k) ∧
      (∀ e, reply = .error e → s'.buffers = s.buffers) ∧
      (∀ a, reply = .ok a → ∃ spot b, handle.layout.fieldAt? path = some spot ∧
        spot.type.encode handle.layout.codec v = .ok b ∧ spot.stop ≤ (s.bytes handle.buffer).length ∧
        (Bytes.Kept spot.start spot.stop (s.bytes handle.buffer) (s'.bytes handle.buffer) ↔
          b.length = spot.type.length) ∧
        ∀ page, handle.layout.codec.Plain → CodePage.ofName? handle.layout.codec.page = some page →
          (b.length = spot.type.length ↔ spot.type.Fits page v)) := by
  have hmem := Memory.mem_of_lookup hr
  have hb := h.bound.record _ hmem
  have hreach := Reader.agrees (Place.root handle.layout) handle.layout.codec (s.bytes handle.buffer)
  obtain ⟨outcome, m, hx, _, _, hfail, hdone⟩ :=
    change_set_writes hreach (s.bytes handle.buffer) path v handle.memory (h.sound _ hmem)
  simp only [stepWith, hr, hx] at hs
  obtain ⟨hreply, rfl⟩ := Prod.mk.inj hs
  refine ⟨fun k hk => bytes_setBuffer_of_ne hk _, fun e he => ?_, fun a ha => ?_⟩
  case refine_1 =>
    cases ho : outcome.1
    case ok => simp [←hreply, ho, Except.map] at he
    case error e =>
      rw [hfail e ho]
      exact setBuffer_bytes hb
  case refine_2 =>
    cases ho : outcome.1
    case error => simp [←hreply, ho, Except.map] at ha
    case ok u =>
      obtain ⟨spot, hspot, hw⟩ := hdone u ho
      obtain ⟨b, he, hle, hb'⟩ := Spot.write_eq_ok hw
      refine ⟨spot, b, hspot, he, hle, ?_, fun page hc hp => FieldType.length_encode_iff hc hp he⟩
      have hle' : spot.start ≤ spot.stop := Nat.le_add_right ..
      have hn : spot.stop - spot.start = spot.type.length := Nat.add_sub_cancel_left ..
      have hk := Bytes.kept_splice_iff b hle' hle
      rw [←hb', hn, ←bytes_setBuffer hb outcome.2] at hk
      exact hk

-- The third and fourth byte of the sample are its second `A`.
theorem sample_set_frame :
    let s := ((start [Layout.sample]).stepWith .remembering
      (.makeRecord "r".toList 0 (.copy [0xf1, 0xf2, 0xf3, 0xf4, 0xf5]))).2
    let outcome := s.stepWith .remembering
      (.change "r".toList (.set [.text "R".toList, .text "A".toList, .int 1] (.int 7)))
    s.records.lookup "r".toList = some ⟨Layout.sample, 0, {}⟩ ∧ outcome.1.isOk ∧
      Bytes.Kept 2 4 (s.bytes 0) (outcome.2.bytes 0) := by
  intro s outcome
  have h : s.Reachable [Layout.sample] := .step _ .start
  have hr : s.records.lookup "r".toList = some ⟨Layout.sample, 0, {}⟩ := rfl
  have ho : outcome.1.isOk := by decide +kernel
  have ⟨_, _, ha⟩ := set_frame h hr (Prod.eta outcome).symm
  cases hd : outcome.1
  case error => simp [hd, Except.isOk, Except.toBool] at ho
  case ok a =>
    have ⟨spot, b, hspot, _, _, hk, hf⟩ := ha a hd
    have he : Layout.sample.fieldAt? [.text "R".toList, .text "A".toList, .int 1] =
        some ⟨⟨"A".toList, 0, none, none, none⟩, .number .zoned ⟨2, 0, false⟩, 2,
          [.name "R".toList, .name "A".toList, .position 1]⟩ := by cbv
    cases he.symm.trans hspot
    exact ⟨hr, rfl, hk.mpr <| (hf .cp037 ⟨rfl, rfl⟩ (by cbv)).mpr ⟨by decide, by decide⟩⟩

-- A field without digits has no room for the digit of zero: setting it moves what comes after it. Its layout is
-- that of `01 R. 05 A PIC 9(0). 05 B PIC X(2).`
theorem digitless_set_moves :
    let layout : Layout := {
      length := 2
      members := [.group ⟨"R".toList, 0, none, none, none⟩ 2 [
        .field ⟨"A".toList, 0, none, none, none⟩ (.number .zoned ⟨0, 0, false⟩),
        .field ⟨"B".toList, 0, none, none, none⟩ (.text 2 false)]]
      declarations := [
        ⟨1, "R".toList, none, none, none, none, none, none, none, "01 R".toList⟩,
        ⟨5, "A".toList, some "9(0)".toList, none, none, none, some "R".toList, none, none, "05 A PIC 9(0)".toList⟩,
        ⟨5, "B".toList, some "X(2)".toList, none, none, none, some "R".toList, none, none, "05 B PIC X(2)".toList⟩]
      codec := {} }
    let s := ((start [layout]).stepWith .remembering (.makeRecord "r".toList 0 (.copy [0xc1, 0xc2]))).2
    let outcome := s.stepWith .remembering (.change "r".toList (.set [.text "A".toList] (.int 0)))
    layout.IsCompiled ∧ outcome.1.isOk ∧ s.bytes 0 = [0xc1, 0xc2] ∧ outcome.2.bytes 0 = [0xf0, 0xc1, 0xc2] := by
  intro layout s outcome
  refine ⟨⟨[], by unfold layout; cbv⟩, ?_, rfl, ?_⟩
  · decide +kernel
  · decide +kernel

end Session
end Copybook
