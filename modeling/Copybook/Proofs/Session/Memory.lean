import Mathlib
import Copybook.Proofs.Record.Place
import Copybook.Session

/-!
What a record remembers is what it would find out again. The invariant of its memory, and what it means that an
access with a memory agrees with one that has none.
-/

namespace Copybook

namespace Memory

theorem mem_of_lookup {α β : Type} [BEq α] [LawfulBEq α] {k : α} {b : β} {l : List (α × β)}
    (h : l.lookup k = some b) : (k, b) ∈ l := by
  have ⟨before, after, hl, _⟩ := List.lookup_eq_some_iff.mp h
  simp [hl]

-- A cell holds the value that its bytes decode to, and an accessor is the one that its path leads to.
structure Sound (root : Place) (codec : Codec) (m : Memory) : Prop where
  cell : ∀ path c p s, (path, c) ∈ m.cells → root.follow path = some p → p.spot? = some s →
    s.decode codec c.raw = .ok c.value
  accessor : ∀ path p, (path, p) ∈ m.accessors → root.follow path = some p

namespace Sound

variable {root p : Place} {codec : Codec} {m : Memory} {s : Spot} {c : Cell}

theorem empty (root : Place) (codec : Codec) : Sound root codec {} where
  cell _ _ _ _ h := nomatch h
  accessor _ _ h := nomatch h

theorem forget (h : Sound root codec m) (path : List Key) : Sound root codec (m.forget path) where
  cell _ _ _ _ hc := h.cell _ _ _ _ (List.mem_filter.mp hc).left
  accessor := h.accessor

theorem store {path : List Key} (h : Sound root codec m)
    (hc : ∀ p s, root.follow path = some p → p.spot? = some s → s.decode codec c.raw = .ok c.value) :
    Sound root codec (m.store path c) where
  accessor := h.accessor
  cell path' c' p s hm hp hs := by
    cases List.mem_cons.mp hm
    case inl he => cases he; exact hc p s hp hs
    case inr hm => exact (h.forget path).cell path' c' p s hm hp hs

theorem keep (h : Sound root codec m) (hp : p.StandsIn root) : Sound root codec (m.keep p) where
  cell := h.cell
  accessor path q hm := by
    cases List.mem_cons.mp hm
    case inl he => cases he; exact hp
    case inr hm => exact h.accessor path q hm

end Sound
end Memory

namespace Place

variable {p : Place} {s : Spot}

theorem path_of_spot? (h : p.spot? = some s) : s.path = p.path := by
  unfold spot? at h
  split at h <;> cases h
  rfl

end Place

-- The first of two computations starts with any memory that the invariant holds of, the second one with none.
-- They come to the same result, the invariant still holds and the second one has remembered nothing.
def Agree {α : Type} (inv : Memory → Prop) (x y : StateM Memory α) (post : α → Prop) : Prop :=
  ∀ m, inv m → ∃ a m', x.run m = (a, m') ∧ y.run {} = (a, {}) ∧ inv m' ∧ post a

namespace Agree

variable {α β : Type} {inv : Memory → Prop} {P : α → Prop} {Q : β → Prop}

theorem pure {a : α} (h : P a) : Agree inv (pure a) (pure a) P :=
  fun m hm => ⟨a, m, rfl, rfl, hm, h⟩

theorem bind {x y : StateM Memory α} {f g : α → StateM Memory β} (hx : Agree inv x y P)
    (hf : ∀ a, P a → Agree inv (f a) (g a) Q) : Agree inv (x >>= f) (y >>= g) Q := by
  intro m hm
  have ⟨a, m', hx, hy, hm', ha⟩ := hx m hm
  have ⟨b, m'', hf, hg, hm'', hb⟩ := hf a ha m' hm'
  refine ⟨b, m'', ?_, ?_, hm'', hb⟩
  · rw [StateT.run_bind, hx]; exact hf
  · rw [StateT.run_bind, hy]; exact hg

theorem mono {x y : StateM Memory α} {P' : α → Prop} (h : Agree inv x y P) (hp : ∀ a, P a → P' a) :
    Agree inv x y P' := by
  intro m hm
  have ⟨a, m', hx, hy, hm', ha⟩ := h m hm
  exact ⟨a, m', hx, hy, hm', hp a ha⟩

end Agree

namespace Access

-- Agreement of accesses; what is known of the result is known if there is one.
def Agrees {α : Type} (inv : Memory → Prop) (x y : Access α) (post : α → Prop) : Prop :=
  Agree inv x.run y.run fun r => ∀ a, r = .ok a → post a

theorem run_get_bind {α : Type} (f : Memory → Access α) (m : Memory) :
    (get >>= f : Access α).run.run m = (f m).run.run m :=
  rfl

theorem run_ok_bind {α β : Type} (a : α) (f : α → Access β) (m : Memory) :
    (MonadExcept.ofExcept (.ok a) >>= f : Access β).run.run m = (f a).run.run m :=
  rfl

namespace Agrees

variable {α β : Type} {inv : Memory → Prop} {P : α → Prop} {Q : β → Prop}

theorem pure {a : α} (h : P a) : Agrees inv (pure a) (pure a) P :=
  Agree.pure fun _ he => Except.ok.inj he ▸ h

theorem throw (e : AccessFault) : Agrees inv (throw e) (throw e) P :=
  Agree.pure fun _ he => nomatch he

theorem ofExcept {r : Except AccessFault α} (h : ∀ a, r = .ok a → P a) :
    Agrees inv (MonadExcept.ofExcept r) (MonadExcept.ofExcept r) P := by
  cases r
  case error e => exact throw e
  case ok a => exact pure (h a rfl)

theorem bind {x y : Access α} {f g : α → Access β} (hx : Agrees inv x y P)
    (hf : ∀ a, P a → Agrees inv (f a) (g a) Q) : Agrees inv (x >>= f) (y >>= g) Q := by
  rw [Agrees, ExceptT.run_bind, ExceptT.run_bind]
  refine Agree.bind hx fun r hr => ?_
  cases r
  case error e => exact throw e
  case ok a => exact hf a (hr a rfl)

theorem mono {x y : Access α} {P' : α → Prop} (h : Agrees inv x y P) (hp : ∀ a, P a → P' a) :
    Agrees inv x y P' :=
  Agree.mono h fun _ hr a ha => hp a (hr a ha)

theorem map {x y : Access α} {f : α → β} (hx : Agrees inv x y P) (hf : ∀ a, P a → Q (f a)) :
    Agrees inv (f <$> x) (f <$> y) Q :=
  hx.bind fun a ha => pure (hf a ha)

theorem modify {f : Memory → Memory} (h : ∀ m, inv m → inv (f m)) (he : f {} = {}) :
    Agrees inv (modify f) (modify f) fun _ => True :=
  fun m hm => ⟨.ok (), f m, rfl, congrArg (Prod.mk (Except.ok ())) he, h m hm, fun _ _ => trivial⟩

theorem mapM {γ : Type} {f g : γ → Access α} {P : γ → α → Prop} {l : List γ}
    (h : ∀ c ∈ l, Agrees inv (f c) (g c) (P c)) :
    Agrees inv (l.mapM f) (l.mapM g) fun _ => True := by
  induction l <;> simp only [List.mapM_nil, List.mapM_cons]
  case nil => exact pure trivial
  case cons c l hi =>
    refine (h c (by simp)).bind fun a _ => ?_
    refine (hi fun c hc => h c (by simp [hc])).bind fun _ _ => ?_
    exact pure trivial

end Agrees
end Access

-- Two ways to reach the parts of a record agree on the places of it.
structure Reach.Agrees (r : Reach Access) (root : Place) (inv : Memory → Prop) (r' : Reach Access) : Prop where
  value : ∀ (p : Place) (s : Spot), p.StandsIn root → p.spot? = some s →
    Access.Agrees inv (r.value s) (r'.value s) fun _ => True
  accessor : ∀ p : Place, p.StandsIn root → Access.Agrees inv (r.accessor p) (r'.accessor p) (· = p)

namespace Reader

variable {root p : Place} {codec : Codec} {s : Spot} {m : Memory}

theorem run_kept (p : Place) (m : Memory) : (kept p).run.run m =
    match m.accessor? p.path with
    | some q => (.ok q, m)
    | none => (.ok p, m.keep p) := by
  rw [kept, Access.run_get_bind]
  cases m.accessor? p.path <;> rfl

theorem run_remembered_of_error {buffer : Bytes} {e : AccessFault} (h : s.bytes buffer = .error e) :
    (remembered codec buffer s).run.run m = (.error e, m) := by
  rw [remembered, h]
  rfl

theorem run_remembered_of_ok {buffer raw : Bytes} (h : s.bytes buffer = .ok raw) :
    (remembered codec buffer s).run.run m =
      match (m.cell? s.path).filter fun cell => cell.raw == raw with
      | some cell => (.ok cell.value, m)
      | none =>
        match s.decode codec raw with
        | .ok v => (.ok v, m.store s.path ⟨raw, v⟩)
        | .error e => (.error e, m) := by
  rw [remembered, h, Access.run_ok_bind, Access.run_get_bind]
  cases (m.cell? s.path).filter fun cell => cell.raw == raw
  case some => rfl
  case none => cases s.decode codec raw <;> rfl

-- A remembered value counts only with the bytes that are there now, and is then what they decode to.
theorem remembered_agrees (buffer : Bytes) (hp : p.StandsIn root) (hs : p.spot? = some s) :
    Access.Agrees (Memory.Sound root codec) (remembered codec buffer s)
      (MonadExcept.ofExcept (s.read codec buffer)) fun _ => True := by
  intro m hm
  have hf : root.follow s.path = some p := Place.path_of_spot? hs ▸ hp
  cases hb : s.bytes buffer
  case error e =>
    refine ⟨.error e, m, run_remembered_of_error hb, ?_, hm, fun _ _ => trivial⟩
    rw [Spot.read, hb]; rfl
  case ok raw =>
    have hread : s.read codec buffer = s.decode codec raw := by rw [Spot.read, hb]; rfl
    rw [hread, run_remembered_of_ok hb]
    split
    case _ c hc =>
      have ⟨hc, hr⟩ := Option.filter_eq_some_iff.mp hc
      have hd := hm.cell _ _ _ _ (Memory.mem_of_lookup hc) hf hs
      rw [beq_iff_eq.mp hr] at hd
      exact ⟨.ok c.value, m, rfl, by rw [hd]; rfl, hm, fun _ _ => trivial⟩
    case _ =>
      cases hd : s.decode codec raw
      case error e => exact ⟨.error e, m, rfl, rfl, hm, fun _ _ => trivial⟩
      case ok v =>
        refine ⟨.ok v, m.store s.path ⟨raw, v⟩, rfl, rfl, hm.store ?_, fun _ _ => trivial⟩
        intro p' s' hp' hs'
        cases hf.symm.trans hp'
        cases hs.symm.trans hs'
        exact hd

-- An accessor that has been kept for a path is the one that would be made for it.
theorem kept_agrees (hp : p.StandsIn root) :
    Access.Agrees (Memory.Sound root codec) (kept p) (pure p) (· = p) := by
  intro m hm
  rw [run_kept]
  split
  case _ q hq =>
    cases hp.symm.trans (hm.accessor _ _ (Memory.mem_of_lookup hq))
    exact ⟨.ok p, m, rfl, rfl, hm, fun _ h => (Except.ok.inj h).symm⟩
  case _ => exact ⟨.ok p, m.keep p, rfl, rfl, hm.keep hp, fun _ h => (Except.ok.inj h).symm⟩

theorem agrees (root : Place) (codec : Codec) (buffer : Bytes) :
    (remembering codec buffer).Agrees root (Memory.Sound root codec) (direct codec buffer) where
  value _ _ := remembered_agrees buffer
  accessor _ := kept_agrees

end Reader

end Copybook
