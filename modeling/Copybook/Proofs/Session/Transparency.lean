import Copybook.Proofs.Session.Memory

/-!
Remembering is never noticed. Every access comes to the same result whether a record remembers what it has read
and made or does all of it anew, and so does every run of a session.
-/

namespace Copybook

-- What is so of an accessor that has been found.
def Found.Satisfies (P : Place → Prop) : Found → Prop
  | .value _ => True
  | .accessor q => P q

namespace Place

open Access

variable {root p : Place} {inv : Memory → Prop} {r r' : Reach Access}

theorem fetch_agrees (hr : r.Agrees root inv r') (hp : p.StandsIn root) :
    Agrees inv (p.fetch r) (p.fetch r') (Found.Satisfies (· = p)) := by
  unfold fetch
  split
  case _ s hs => exact (hr.value p s hp hs).map fun _ _ => trivial
  case _ => exact (hr.accessor p hp).map fun _ hq => hq

theorem get_agrees (hr : r.Agrees root inv r') (hp : p.StandsIn root) (key : Value) :
    Agrees inv (p.get r key) (p.get r' key)
      (Found.Satisfies fun q => q.StandsIn root ∧ p.resolve key = .ok q) := by
  refine (Agrees.ofExcept fun q hq => hq).bind fun q hq => ?_
  have hs := hp.resolve hq
  refine (fetch_agrees hr hs).mono fun f hf => ?_
  cases f
  case value => trivial
  case accessor q' =>
    cases hf
    exact ⟨hs, hq⟩

-- An accessor that keys lead to is the one that they mean.
theorem navigate_agrees (hr : r.Agrees root inv r') (hp : p.StandsIn root) (keys : List Value) :
    Agrees inv (p.navigate r keys) (p.navigate r' keys)
      (Found.Satisfies fun q => q.StandsIn root ∧ p.locate keys = .ok q) := by
  induction keys generalizing p <;> simp only [navigate]
  case nil => exact Agrees.pure ⟨hp, rfl⟩
  case cons key keys hi =>
    refine (get_agrees hr hp key).bind fun f hf => ?_
    split
    case _ q =>
      refine (hi hf.left).mono fun f hf' => ?_
      have hl : p.locate (key :: keys) = q.locate keys := by
        simp only [locate, List.foldlM_cons, hf.right, bind, Except.bind]
      rwa [hl]
    case _ => exact Agrees.pure trivial
    case _ => exact Agrees.throw _

theorem accessor_agrees (hr : r.Agrees root inv r') (hp : p.StandsIn root) (keys : List Value) :
    Agrees inv (p.accessor r keys) (p.accessor r' keys)
      fun q => q.StandsIn root ∧ p.locate keys = .ok q := by
  refine (navigate_agrees hr hp keys).bind fun f hf => ?_
  cases f
  case accessor q => exact Agrees.pure hf
  case value => exact Agrees.throw _

theorem items_agrees (hr : r.Agrees root inv r') (hp : p.StandsIn root) :
    Agrees inv (p.items r) (p.items r') fun _ => True :=
  Agrees.mapM (P := fun _ _ => True) fun _ hn =>
    (fetch_agrees hr (hp.field hn)).bind fun _ _ => Agrees.pure trivial

theorem occurrences_agrees (hr : r.Agrees root inv r') (hp : p.StandsIn root) :
    Agrees inv (p.occurrences r) (p.occurrences r') fun _ => True := by
  unfold occurrences
  split
  case _ hn => exact Agrees.mapM fun k hk => fetch_agrees hr (hp.element hn (List.mem_range.mp hk))
  case _ => exact Agrees.throw _

theorem enter_agrees (hr : r.Agrees root inv r') (hp : p.StandsIn root) :
    Agrees inv (p.enter r) (p.enter r') (· = p) := by
  unfold enter
  split
  · exact Agrees.pure rfl
  · exact hr.accessor p hp

mutual

theorem plain_agrees (hr : r.Agrees root inv r') {shift : Nat} {path : List Key} (n : Node)
    (hp : StandsIn ⟨n, shift, path⟩ root) :
    Agrees inv (plain r shift path n) (plain r' shift path n) fun _ => True := by
  cases n <;> simp only [plain]
  case field item type => exact hr.value _ _ hp rfl
  case group item length members =>
    refine (items_agrees hr hp).bind fun _ _ => ?_
    refine (plainMembers_agrees hr [] members hp nofun).bind fun _ _ => ?_
    exact Agrees.pure trivial
  case array count n =>
    refine Agrees.map (Agrees.mapM (P := fun _ _ => True) fun k hk => ?_) fun _ h => h
    have hk := hp.element rfl (List.mem_range.mp hk)
    refine (enter_agrees hr hk).bind fun q hq => ?_
    subst hq
    exact plain_agrees hr n hk

-- The names seen are those of the members before the ones that are left.
theorem plainMembers_agrees (hr : r.Agrees root inv r') {shift : Nat} {path : List Key} {item : Item}
    {length : Nat} {seen : List Text} (before ns : List Node)
    (hp : StandsIn ⟨.group item length (before ++ ns), shift, path⟩ root)
    (hs : ∀ m ∈ before, m.isAddressable → m.name ∈ seen) :
    Agrees inv (plainMembers r shift path seen ns) (plainMembers r' shift path seen ns) fun _ => True := by
  cases ns <;> simp only [plainMembers]
  case nil => exact Agrees.pure trivial
  case cons n ns =>
    have hp' : StandsIn ⟨.group item length ((before ++ [n]) ++ ns), shift, path⟩ root := by simpa using hp
    split
    case isTrue h =>
      refine plainMembers_agrees hr (before ++ [n]) ns hp' fun m hm ha => ?_
      cases List.mem_append.mp hm
      case inl hm => exact hs m hm ha
      case inr hm =>
        cases List.mem_singleton.mp hm
        simpa [ha] using h
    case isFalse h =>
      have ⟨ha, hn⟩ : n.isAddressable = true ∧ n.name ∉ seen := by simpa using h
      have hl : Node.lookup? (.group item length (before ++ n :: ns)) n.name = some n :=
        Node.lookup?_member ha fun m hm hma he => hn <| he ▸ hs m hm hma
      have hm := hp.member rfl hl
      refine (enter_agrees hr hm).bind fun q hq => ?_
      subst hq
      refine (plain_agrees hr n hm).bind fun _ _ => ?_
      refine Agrees.bind (plainMembers_agrees hr (before ++ [n]) ns hp' fun m hm ha => ?_)
        fun _ _ => Agrees.pure trivial
      cases List.mem_append.mp hm
      case inl hm => exact List.mem_cons_of_mem _ (hs m hm ha)
      case inr hm => simp [List.mem_singleton.mp hm]

end

theorem toValue_agrees (hr : r.Agrees root inv r') (hp : p.StandsIn root) :
    Agrees inv (p.toValue r) (p.toValue r') fun _ => True :=
  plain_agrees hr p.node hp

theorem containsFrom_agrees (hr : r.Agrees root inv r') {n : Node} {ks : List Nat} (v : Value)
    (hp : ∀ k ∈ ks, (p.element n k).StandsIn root) :
    Agrees inv (containsFrom r p n v ks) (containsFrom r' p n v ks) fun _ => True := by
  induction ks <;> simp only [containsFrom]
  case nil => exact Agrees.pure trivial
  case cons k ks hi =>
    have hi := hi fun k hk => hp k (List.mem_cons_of_mem _ hk)
    refine (fetch_agrees hr (hp k (by simp))).bind fun f _ => ?_
    cases f
    case accessor => exact hi
    case value w =>
      refine Agrees.bind (Agrees.ofExcept (P := fun _ => True) fun _ _ => trivial) fun b _ => ?_
      cases b
      case true => exact Agrees.pure trivial
      case false => exact hi

theorem contains_agrees (hr : r.Agrees root inv r') (hp : p.StandsIn root) (v : Value) :
    Agrees inv (p.contains r v) (p.contains r' v) fun _ => True := by
  unfold contains
  split
  case _ hn => exact containsFrom_agrees hr v fun k hk => hp.element hn (List.mem_range.mp hk)
  case _ => split <;> exact Agrees.pure trivial

end Place

namespace Handle

-- A record that has remembered nothing yet.
def bare (handle : Handle) : Handle :=
  { handle with memory := {} }

theorem bare_layout (handle : Handle) : handle.bare.layout = handle.layout :=
  rfl

theorem bare_buffer (handle : Handle) : handle.bare.buffer = handle.buffer :=
  rfl

theorem bare_memory (handle : Handle) : handle.bare.memory = {} :=
  rfl

def Sound (handle : Handle) : Prop :=
  Memory.Sound (Place.root handle.layout) handle.layout.codec handle.memory

end Handle

namespace Session

open Access

variable {root p : Place} {inv : Memory → Prop} {r r' : Reach Access}

theorem query_agrees (hr : r.Agrees root inv r') (hp : p.StandsIn root) (codec : Codec) (buffer : Bytes)
    (q : Query) : Agrees inv (query r codec buffer p q) (query r' codec buffer p q) fun _ => True := by
  have hi := Place.items_agrees hr hp
  have offered {x y : Access Reply} (h : Agrees inv x y fun _ => True) :
      Agrees inv (query.fieldsOnly p x) (query.fieldsOnly p y) fun _ => True := by
    unfold query.fieldsOnly
    split
    · exact Agrees.throw _
    · exact h
  cases q <;> simp only [query]
  case get | length => exact Agrees.pure trivial
  case contains v => exact (Place.contains_agrees hr hp v).map fun _ h => h
  case plain => exact (Place.toValue_agrees hr hp).map fun _ h => h
  case shown =>
    refine (Place.toValue_agrees hr hp).bind fun v _ => ?_
    split
    · exact Agrees.throw _
    · exact Agrees.pure trivial
  case elements =>
    split
    · exact (Place.occurrences_agrees hr hp).map fun _ h => h
    · exact hi.bind fun _ _ => Agrees.pure trivial
  case keys | values | items => exact offered <| hi.bind fun _ _ => Agrees.pure trivial
  case bytes => exact offered <| Agrees.pure trivial
  case text => exact offered <| (Agrees.ofExcept (P := fun _ => True) fun _ _ => trivial).bind fun _ _ =>
    Agrees.pure trivial

theorem ask_agrees (hr : r.Agrees root inv r') (hp : p.StandsIn root) (codec : Codec) (buffer : Bytes)
    (path : List Value) (q : Query) :
    Agrees inv (ask r codec buffer p path q) (ask r' codec buffer p path q) fun _ => True := by
  refine (Place.navigate_agrees hr hp path).bind fun f hf => ?_
  split
  · exact Agrees.pure trivial
  · exact query_agrees hr hf.left codec buffer _
  · exact Agrees.throw _

-- A field that is set is forgotten, which leaves a sound memory sound and an empty one empty.
theorem assign_agrees (layout : Layout) (buffer : Bytes) (p : Place) (key v : Value) {root : Place}
    {codec : Codec} :
    Agrees (Memory.Sound root codec) (assign layout buffer p key v) (assign layout buffer p key v)
      fun b => ∃ s, p.assignee key v = .ok s ∧ s.write layout.codec buffer v = .ok b := by
  refine Agrees.bind (Agrees.ofExcept fun _ hs => hs) fun s hs => ?_
  refine Agrees.bind (Agrees.ofExcept fun _ hb => hb) fun b hb => ?_
  refine Agrees.bind (Agrees.modify (fun m hm => hm.forget s.path) rfl) fun _ _ => ?_
  exact Agrees.pure ⟨s, hs, hb⟩

theorem set_agrees {codec : Codec} {layout : Layout}
    (hr : r.Agrees (Place.root layout) (Memory.Sound (Place.root layout) codec) r') (buffer : Bytes)
    (path : List Value) (key v : Value) :
    Agrees (Memory.Sound (Place.root layout) codec)
      (do assign layout buffer (← (Place.root layout).accessor r path) key v)
      (do assign layout buffer (← (Place.root layout).accessor r' path) key v)
      fun b => ∃ q s, (Place.root layout).locate path = .ok q ∧ q.assignee key v = .ok s ∧
        s.write layout.codec buffer v = .ok b :=
  (Place.accessor_agrees hr (Place.root_stands layout) path).bind fun q hq =>
    (assign_agrees layout buffer q key v).mono fun _ ⟨s, hs, hb⟩ => ⟨q, s, hq.right, hs, hb⟩

theorem assignAll_agrees (layout : Layout) (p : Place) (buffer : Bytes) (values : List (Text × Value))
    {root : Place} {codec : Codec} :
    Agree (Memory.Sound root codec) (assignAll layout p buffer values) (assignAll layout p buffer values)
      fun _ => True := by
  induction values generalizing buffer <;> simp only [assignAll]
  case nil => exact Agree.pure trivial
  case cons named values hi =>
    refine Agree.bind (assign_agrees layout buffer p (.text named.1) named.2) fun r hr => ?_
    cases r
    case ok b => exact hi b
    case error => exact Agree.pure trivial

theorem change_agrees {codec : Codec} {layout : Layout}
    (hr : r.Agrees (Place.root layout) (Memory.Sound (Place.root layout) codec) r') (buffer : Bytes)
    (c : Change) :
    Agree (Memory.Sound (Place.root layout) codec) (change r layout buffer c) (change r' layout buffer c)
      fun _ => True := by
  have hroot := Place.root_stands layout
  cases c <;> simp only [change]
  case set path v =>
    split
    case _ => exact Agree.pure trivial
    case _ key _ =>
      refine Agree.bind (set_agrees hr buffer path.dropLast key v) fun r _ => ?_
      cases r <;> exact Agree.pure trivial
  case update path values =>
    refine Agree.bind (Place.accessor_agrees hr hroot path) fun r hr => ?_
    cases r
    case error => exact Agree.pure trivial
    case ok p =>
      simp only
      split
      · exact Agree.pure trivial
      · exact assignAll_agrees layout p buffer values
  case poke | resize => exact Agree.pure trivial

-- What there is of a session apart from what its records remember.
def bare (s : Session) : Session :=
  { s with records := s.records.map (Prod.map id Handle.bare) }

-- Everything that a record of the session remembers is so.
def Sound (s : Session) : Prop :=
  ∀ entry ∈ s.records, entry.2.Sound

theorem start_sound (layouts : List Layout) : (start layouts).Sound :=
  nofun

theorem bytes_bare (s : Session) (number : Nat) : s.bare.bytes number = s.bytes number :=
  rfl

section Names

variable {α β : Type} (f : α → β) (name : Text) (known : List (Text × α))

theorem lookup_map : (known.map (Prod.map id f)).lookup name = (known.lookup name).map f := by
  induction known
  case nil => rfl
  case cons entry known hi =>
    have ⟨n, a⟩ := entry
    simp only [List.map_cons, Prod.map_apply, id, List.lookup_cons, hi]
    cases name == n <;> rfl

theorem map_bind (a : α) :
    (bind name a known).map (Prod.map id f) = bind name (f a) (known.map (Prod.map id f)) := by
  simp [bind, List.filter_map, Function.comp_def]

end Names

section Step

variable {s : Session} {handle : Handle}

theorem Sound.bind (h : s.Sound) (name : Text) (hm : handle.Sound) :
    Sound { s with records := Session.bind name handle s.records } := by
  intro entry he
  cases List.mem_cons.mp he
  case inl he => exact he ▸ hm
  case inr he => exact h entry (List.mem_filter.mp he).left

theorem bare_bind (s : Session) (name : Text) (handle : Handle) :
    bare { s with records := Session.bind name handle s.records } =
      { s.bare with records := Session.bind name handle.bare s.bare.records } := by
  simp only [bare, map_bind]

-- The second of two outcomes is that of a session without memories where the first one is that of a sound one.
def Mirrored {α : Type} (x y : Except AccessFault α × Session) : Prop :=
  x.2.Sound ∧ y = (x.1, x.2.bare)

theorem Mirrored.bind {α : Type} {r : Except AccessFault α} (h : s.Sound) (name : Text) (hm : handle.Sound) :
    Mirrored (r, { s with records := Session.bind name handle s.records })
      (r, { s.bare with records := Session.bind name handle.bare s.bare.records }) :=
  ⟨h.bind name hm, congrArg (Prod.mk r) (bare_bind s name handle).symm⟩

theorem makeRecord_mirrored (h : s.Sound) (name : Text) (layout : Layout) (o : Origin) :
    Mirrored (s.makeRecord name layout o) (s.bare.makeRecord name layout o) := by
  have empty (number : Nat) : Handle.Sound ⟨layout, number, {}⟩ := Memory.Sound.empty _ _
  cases o <;> simp only [makeRecord]
  case fresh => exact Mirrored.bind (s := (s.addBuffer _).1) h name (empty _)
  case copy data =>
    cases layout.check data
    case ok => exact Mirrored.bind (s := (s.addBuffer _).1) h name (empty _)
    case error => exact ⟨h, rfl⟩
  case shared buffer =>
    rw [show s.bare.named = s.named from rfl]
    cases s.named.lookup buffer
    case none => exact ⟨h, rfl⟩
    case some number =>
      simp only [bytes_bare]
      cases layout.check (s.bytes number)
      case ok => exact Mirrored.bind h name (empty number)
      case error => exact ⟨h, rfl⟩

theorem stepWith_mirrored (h : s.Sound) (st : Step) :
    Mirrored (s.stepWith .remembering st) (s.bare.stepWith .direct st) := by
  cases st <;> simp only [stepWith]
  case makeBuffer name data => exact ⟨h, rfl⟩
  case makeRecord name number o =>
    rw [show s.bare.layouts = s.layouts from rfl]
    cases s.layouts[number]?
    case none => exact ⟨h, rfl⟩
    case some layout =>
      have ⟨hs, he⟩ := makeRecord_mirrored h name layout o
      exact ⟨hs, by simp only [he]⟩
  case change record c =>
    rw [show s.bare.records.lookup record = _ from lookup_map ..]
    cases hr : s.records.lookup record
    case none => exact ⟨h, rfl⟩
    case some handle =>
      have hm := h (record, handle) (Memory.mem_of_lookup hr)
      have hreach := Reader.agrees (Place.root handle.layout) handle.layout.codec (s.bytes handle.buffer)
      have ⟨r, m, hx, hy, hm, _⟩ := change_agrees hreach (s.bytes handle.buffer) c handle.memory hm
      simp only [Option.map_some, Handle.bare_layout, Handle.bare_buffer, Handle.bare_memory, bytes_bare, hx, hy]
      exact Mirrored.bind (s := s.setBuffer handle.buffer r.2) h record hm
  case ask record path q =>
    rw [show s.bare.records.lookup record = _ from lookup_map ..]
    cases hr : s.records.lookup record
    case none => exact ⟨h, rfl⟩
    case some handle =>
      have hm := h (record, handle) (Memory.mem_of_lookup hr)
      have hreach := Reader.agrees (Place.root handle.layout) handle.layout.codec (s.bytes handle.buffer)
      have ⟨r, m, hx, hy, hm, _⟩ :=
        ask_agrees hreach (Place.root_stands _) handle.layout.codec (s.bytes handle.buffer) path q _ hm
      simp only [Option.map_some, Handle.bare_layout, Handle.bare_buffer, Handle.bare_memory, bytes_bare, hx, hy]
      exact Mirrored.bind h record hm

end Step

theorem runWith_bare {s : Session} (h : s.Sound) (steps : List Step) :
    s.bare.runWith .direct steps = (s.run steps).map fun (reply, s) => (reply, s.bare) := by
  unfold run
  induction steps generalizing s <;> simp only [runWith, List.map_nil, List.map_cons]
  case cons st steps hi =>
    have ⟨hs, he⟩ := stepWith_mirrored h st
    rw [he, hi hs]

-- The replies, and everything there is of the sessions but what their records remember, are those of a session
-- whose records go to the bytes at each read.
theorem run_transparent (layouts : List Layout) (steps : List Step) :
    (start layouts).runWith .direct steps =
      ((start layouts).run steps).map fun (reply, s) => (reply, s.bare) :=
  runWith_bare (start_sound layouts) steps

end Session

end Copybook
