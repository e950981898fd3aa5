import Copybook.Proofs.Record.Fault
import Copybook.Proofs.Session.Frame

/-!
What a record that remembers does in a single step, said without its memory: a get reads the field that the path
means from the bytes there are, a set writes it, and all that becomes of the session is the buffer of the record.
-/

namespace Copybook

namespace Access

variable {α β : Type}

-- An access that comes to a result if nothing is remembered, and then still remembers nothing.
def Gives (x : Access α) (r : Except AccessFault α) : Prop :=
  x.run.run {} = (r, {})

namespace Gives

theorem pure (a : α) : Gives (pure a) (.ok a) :=
  rfl

theorem throw (e : AccessFault) : Gives (throw e : Access α) (.error e) :=
  rfl

theorem ofExcept (r : Except AccessFault α) : Gives (MonadExcept.ofExcept r) r := by
  cases r
  case error e => exact throw e
  case ok a => exact pure a

theorem bind {x : Access α} {r : Except AccessFault α} {f : α → Access β} {g : α → Except AccessFault β}
    (hx : x.Gives r) (hf : ∀ a, (f a).Gives (g a)) : (x >>= f).Gives (r >>= g) := by
  rw [Gives, ExceptT.run_bind, StateT.run_bind, hx]
  cases r
  case error => rfl
  case ok a => exact hf a

theorem map {x : Access α} {r : Except AccessFault α} (f : α → β) (hx : x.Gives r) : (f <$> x).Gives (f <$> r) := by
  have hf := hx.bind fun a => pure (f a)
  cases r <;> exact hf

end Gives
end Access

variable {codec : Codec} {buffer : Bytes}

-- Fields are read from the bytes of a buffer, and no accessor is kept.
def Reach.now (codec : Codec) (buffer : Bytes) : Reach (Except AccessFault) :=
  ⟨fun s => s.read codec buffer, .ok⟩

namespace Place

open Access

variable {p q : Place} {s : Spot} {keys : List Value} {key : Value}

theorem fetch_gives (p : Place) : Gives (p.fetch (Reader.direct codec buffer)) (p.fetch (.now codec buffer)) := by
  unfold fetch
  split
  · exact (Gives.ofExcept _).map _
  · exact Gives.pure _

theorem get_now (p : Place) (key : Value) :
    p.get (.now codec buffer) key = p.resolve key >>= fetch (.now codec buffer) := by
  rw [get]
  cases p.resolve key <;> rfl

theorem get_gives (p : Place) (key : Value) :
    Gives (p.get (Reader.direct codec buffer) key) (p.get (.now codec buffer) key) := by
  rw [get_now]
  exact (Gives.ofExcept _).bind fetch_gives

-- Without a memory, navigation depends on the bytes alone.
theorem navigate_gives (p : Place) (keys : List Value) :
    Gives (p.navigate (Reader.direct codec buffer) keys) (p.navigate (.now codec buffer) keys) := by
  induction keys generalizing p <;> simp only [navigate]
  case nil => exact Gives.pure _
  case cons key keys hi =>
    refine (get_gives p key).bind fun f => ?_
    split
    · exact hi _
    · exact Gives.pure _
    · exact Gives.throw _

theorem accessor_gives (p : Place) (keys : List Value) :
    Gives (p.accessor (Reader.direct codec buffer) keys) (p.accessor (.now codec buffer) keys) := by
  refine (navigate_gives p keys).bind fun f => ?_
  split
  · exact Gives.pure _
  · exact Gives.throw _

theorem spot?_of_locate (h : p.locate keys = .ok q) (hq : q.spot? = none) : p.spot? = none := by
  cases keys
  case nil =>
    cases h
    exact hq
  case cons =>
    rw [locate_cons] at h
    have ⟨_, hp, _⟩ := bind_eq_ok_iff.mp h
    exact spot?_of_resolve hp

-- On the way to an accessor there are only accessors.
theorem navigate_append (h : p.locate keys = .ok q) (hq : q.spot? = none) (more : List Value) :
    p.navigate (.now codec buffer) (keys ++ more) = q.navigate (.now codec buffer) more := by
  induction keys generalizing p
  case nil =>
    cases h
    rfl
  case cons key keys hi =>
    rw [locate_cons] at h
    have ⟨p', hp, h⟩ := bind_eq_ok_iff.mp h
    rw [List.cons_append, navigate, get_now, hp]
    simp only [bind, Except.bind, fetch, spot?_of_locate h hq]
    exact hi h

theorem navigate_of_locate (h : p.locate keys = .ok q) (hq : q.spot? = none) :
    p.navigate (.now codec buffer) keys = .ok (.accessor q) := by
  rw [←List.append_nil keys]
  exact navigate_append h hq []

end Place

namespace Layout

variable {layout : Layout} {path : List Value} {s : Spot}

-- A path to a field ends with the key of the field at the accessor before it.
theorem fieldAt?_cases (h : layout.fieldAt? path = some s) :
    ∃ keys key p q, path = keys ++ [key] ∧ (Place.root layout).locate keys = .ok p ∧ p.spot? = none ∧
      p.resolve key = .ok q ∧ q.spot? = some s := by
  unfold fieldAt? at h
  cases hl : (Place.root layout).locate path <;> rw [hl] at h
  case error => contradiction
  case ok q =>
    rcases List.eq_nil_or_concat path with hp | ⟨keys, key, hp⟩ <;> subst hp
    case inl =>
      cases hl
      contradiction
    case inr =>
      rw [Place.locate, List.concat_eq_append, List.foldlM_append] at hl
      obtain ⟨p, hp, hq⟩ := bind_eq_ok_iff.mp hl
      have hq : p.resolve key = .ok q := by simpa using hq
      exact ⟨keys, key, p, q, List.concat_eq_append .., hp, Place.spot?_of_resolve hq, hq, h⟩

-- A get of a field reads the bytes that it has now.
theorem navigate_field (h : layout.fieldAt? path = some s) (codec : Codec) (buffer : Bytes) :
    (Place.root layout).navigate (.now codec buffer) path = (s.read codec buffer).map .value := by
  have ⟨keys, key, p, q, hpath, hp, hs, hq, hs'⟩ := fieldAt?_cases h
  rw [hpath, Place.navigate_append hp hs, Place.navigate, Place.get_now, hq]
  simp only [bind, Except.bind, Place.fetch, hs', Reach.now]
  cases s.read codec buffer <;> rfl

-- The buffer with a value written to the field that a path means.
def put (layout : Layout) (buffer : Bytes) (path : List Value) (v : Value) : Except AccessFault Bytes :=
  match path.getLast? with
  | none => .error .notAccessor
  | some key => do
    layout.assign (← (Place.root layout).accessor (.now layout.codec buffer) path.dropLast) buffer key v

theorem put_concat {keys : List Value} {p : Place} (h : (Place.root layout).locate keys = .ok p)
    (hs : p.spot? = none) (buffer : Bytes) (key v : Value) :
    layout.put buffer (keys ++ [key]) v = layout.assign p buffer key v := by
  simp only [put, List.getLast?_concat, List.dropLast_concat, Place.accessor, Place.navigate_of_locate h hs]
  rfl

theorem put_field (h : layout.fieldAt? path = some s) (buffer : Bytes) (v : Value) :
    layout.put buffer path v = s.write layout.codec buffer v := by
  have ⟨keys, key, p, q, hpath, hp, hs, hq, hs'⟩ := fieldAt?_cases h
  rw [hpath, put_concat hp hs, assign, Place.assignee_of_resolve hq hs']
  rfl

end Layout

namespace Session

open Access

variable {s : Session} {layouts : List Layout} {record : Text} {handle : Handle}

-- The outcome of a get in a record without a memory.
theorem run_get (codec : Codec) (buffer : Bytes) (root : Place) (path : List Value) :
    (ask (Reader.direct codec buffer) codec buffer root path .get).run.run {} =
      ((root.navigate (.now codec buffer) path).map .found, {}) :=
  (Place.navigate_gives root path).map Reply.found

theorem assign_gives (layout : Layout) (buffer : Bytes) (p : Place) (key v : Value) :
    Gives (assign layout buffer p key v) (layout.assign p buffer key v) := by
  refine (Gives.ofExcept _).bind fun s => ?_
  cases h : s.write layout.codec buffer v
  case error => rfl
  case ok => rfl

theorem set_gives (layout : Layout) (buffer : Bytes) (keys : List Value) (key v : Value) :
    let root := Place.root layout
    Gives (root.accessor (Reader.direct layout.codec buffer) keys >>= fun p => assign layout buffer p key v)
      (root.accessor (.now layout.codec buffer) keys >>= fun p => layout.assign p buffer key v) :=
  (Place.accessor_gives _ _).bind fun p => assign_gives layout buffer p key v

-- The outcome of a set in a record without a memory.
theorem run_set (layout : Layout) (buffer : Bytes) (path : List Value) (v : Value) :
    (change (Reader.direct layout.codec buffer) layout buffer (.set path v)).run {} =
      (((layout.put buffer path v).map fun _ => (), (layout.put buffer path v).toOption.getD buffer), {}) := by
  simp only [change, Layout.put]
  cases path.getLast?
  case none => rfl
  case some key =>
    have h := set_gives layout buffer path.dropLast key v
    simp only [StateT.run_bind]
    rw [h]
    generalize ((Place.root layout).accessor (.now layout.codec buffer) path.dropLast >>= fun p =>
      layout.assign p buffer key v) = outcome
    cases outcome <;> rfl

-- There are these buffers, and a record of that layout over one of them.
def Has (s : Session) (record : Text) (layout : Layout) (j : Nat) (buffers : List Bytes) : Prop :=
  s.buffers = buffers ∧ ∃ m, s.records.lookup record = some ⟨layout, j, m⟩

theorem has_of_lookup (hr : s.records.lookup record = some handle) :
    s.Has record handle.layout handle.buffer s.buffers :=
  ⟨rfl, handle.memory, hr⟩

theorem lookup_bind {α : Type} (name : Text) (a : α) (known : List (Text × α)) :
    (bind name a known).lookup name = some a := by
  simp [bind]

-- A record that is made without data has the template of its layout.
theorem has_fresh {layout : Layout} {number : Nat} (hn : s.layouts[number]? = some layout) (name : Text) :
    (s.stepWith .remembering (.makeRecord name number .fresh)).2.Has name layout s.buffers.length
      (s.buffers ++ [layout.template]) := by
  simp only [stepWith, hn, makeRecord, addBuffer, addRecord]
  exact ⟨rfl, {}, lookup_bind ..⟩

def getAt (s : Session) (record : Text) (path : List Value) : Except AccessFault Reply × Session :=
  s.stepWith .remembering (.ask record path .get)

def setAt (s : Session) (record : Text) (path : List Value) (v : Value) : Except AccessFault Reply × Session :=
  s.stepWith .remembering (.change record (.set path v))

section Steps

variable {layout : Layout} {j : Nat} {buffers : List Bytes} (h : s.Reachable layouts)
  (hs : s.Has record layout j buffers)

include h

theorem Reachable.setAt (record : Text) (path : List Value) (v : Value) :
    (s.setAt record path v).2.Reachable layouts :=
  h.step _

include hs

theorem Has.lt : j < buffers.length := by
  have ⟨hb, _, hr⟩ := hs
  rw [←hb]
  exact h.bound.record _ (Memory.mem_of_lookup hr)

-- A get comes to what the path leads to now, and leaves all bytes as they are.
theorem getAt_eq (path : List Value) :
    (s.getAt record path).1 =
        ((Place.root layout).navigate (.now layout.codec (buffers.getD j [])) path).map .found ∧
      (s.getAt record path).2.Has record layout j buffers := by
  have ⟨hb, memory, hr⟩ := hs
  subst hb
  have hreach := Reader.agrees (Place.root layout) layout.codec (s.bytes j)
  have ⟨r, m, hx, hy, _⟩ := ask_agrees hreach (Place.root_stands _) layout.codec (s.bytes j) path .get memory
    (h.sound _ (Memory.mem_of_lookup hr))
  cases hy.symm.trans (run_get ..)
  simp only [getAt, stepWith, hr, hx]
  exact ⟨rfl, rfl, m, lookup_bind ..⟩

-- A set comes to the buffer with the value in the field that the path means, or to no change at all.
theorem setAt_eq (path : List Value) (v : Value) :
    let written := layout.put (buffers.getD j []) path v
    (s.setAt record path v).1 = written.map (fun _ => .done) ∧
      (s.setAt record path v).2.Has record layout j
        (buffers.set j (written.toOption.getD (buffers.getD j []))) := by
  have ⟨hb, memory, hr⟩ := hs
  subst hb
  have hreach := Reader.agrees (Place.root layout) layout.codec (s.bytes j)
  have ⟨r, m, hx, hy, _⟩ := change_agrees hreach (s.bytes j) (.set path v) memory
    (h.sound _ (Memory.mem_of_lookup hr))
  cases hy.symm.trans (run_set ..)
  simp only [setAt, stepWith, hr, hx]
  refine ⟨?_, rfl, m, lookup_bind ..⟩
  simp only [bytes]
  cases layout.put (s.buffers.getD j []) path v <;> rfl

end Steps
end Session
end Copybook
