import Copybook.Notice
import Copybook.Proofs.Except

/-!
Computations that make notices: what one comes to when there have been notices before it, whether these matter, and what
is so of all that it may come to and of all its failures.
-/

namespace Copybook

namespace Noting

variable {ε ε' α β : Type} {x : Noting ε α} {ns ns' ms ms' : List Notice} {Q Q' : ε → Prop}

-- A computation with notices `ns` before it comes to `a`, with notices `ns'` after it.
def Yields (x : Noting ε α) (ns : List Notice) (a : α) (ns' : List Notice) : Prop :=
  x.run.run ns = (.ok a, ns')

theorem yields_result {a : α} (h : x.result = (.ok a, ns)) : x.Yields [] a ns :=
  h

theorem Yields.pure {a b : α} (h : Yields (pure a : Noting ε α) ns b ns') : a = b ∧ ns = ns' := by
  have ⟨h₁, h₂⟩ := Prod.mk.inj h
  exact ⟨Except.ok.inj h₁, h₂⟩

theorem not_yields_throw {a : α} (e : ε) : ¬Yields (throw e : Noting ε α) ns a ns' :=
  fun h => nomatch (Prod.mk.inj h).left

theorem Yields.bind {f : α → Noting ε β} {b : β} (h : Yields (x >>= f) ns b ns') :
    ∃ a m, x.Yields ns a m ∧ (f a).Yields m b ns' := by
  rw [Yields, ExceptT.run_bind, StateT.run_bind] at h
  cases hx : x.run.run ns
  case mk r m =>
    rw [hx] at h
    cases r
    case ok a => exact ⟨a, m, hx, h⟩
    case error => exact nomatch (Prod.mk.inj h).left

theorem Yields.note {n : Notice} {u : Unit} (h : Yields (note n : Noting ε Unit) ns u ns') :
    ns' = ns ++ [n] :=
  (Prod.mk.inj h).right.symm

theorem Yields.lift {x : Except ε α} {a : α} (h : Yields (lift x) ns a ns') : x = .ok a ∧ ns = ns' :=
  Prod.mk.inj h

theorem Yields.seq {f : α → Noting ε β} {a : α} {b : β} (hx : x.Yields ns a ms)
    (hf : (f a).Yields ms b ms') : (x >>= f).Yields ns b ms' := by
  rw [Yields, ExceptT.run_bind, StateT.run_bind, hx]
  exact hf

theorem Yields.attempt {o : Except ε α} (h : Yields (attempt x : Noting ε' _) ns o ns') : x.run.run ns = (o, ns') := by
  have ⟨ho, hn⟩ := Prod.mk.inj h
  exact Prod.ext (Except.ok.inj ho) hn

theorem Yields.mapFault {f : ε → ε'} {a : α} (h : (x.mapFault f).Yields ns a ns') : x.Yields ns a ns' := by
  have ⟨ho, hn⟩ := Prod.mk.inj h
  exact Prod.ext (mapError_eq_ok_iff.mp ho) hn

-- What comes of a computation is the same whatever has been noticed before it.
def Steady (x : Noting ε α) : Prop :=
  ∀ ns ns', (x.run.run ns).1 = (x.run.run ns').1

namespace Steady

theorem pure (a : α) : Steady (pure a : Noting ε α) :=
  fun _ _ => rfl

theorem throw (e : ε) : Steady (throw e : Noting ε α) :=
  fun _ _ => rfl

theorem note (n : Notice) : Steady (note n : Noting ε Unit) :=
  fun _ _ => rfl

theorem lift (x : Except ε α) : Steady (lift x) :=
  fun _ _ => rfl

theorem bind {f : α → Noting ε β} (hx : x.Steady) (hf : ∀ a, (f a).Steady) : (x >>= f).Steady := by
  intro ns ns'
  have h := hx ns ns'
  simp only [ExceptT.run_bind, StateT.run_bind]
  cases hr : x.run.run ns
  case mk r m =>
    cases hr' : x.run.run ns'
    case mk r' m' =>
      rw [hr, hr'] at h
      subst h
      cases r
      case error => rfl
      case ok a => exact hf a m m'

theorem run_eq (h : x.Steady) (ns : List Notice) : (x.run.run ns).1 = x.result.1 :=
  h ns []

theorem of_yields {a : α} (h : x.Steady) (hy : x.Yields ns a ns') : x.result.1 = .ok a :=
  (h.run_eq ns).symm.trans (congrArg Prod.fst hy)

end Steady

-- A computation comes to what `P` says, or fails as `Q` says, whatever has been noticed before.
def Settles (x : Noting ε α) (P : α → Prop) (Q : ε → Prop) : Prop :=
  ∀ notices, Ends P Q (x.run.run notices).1

namespace Settles

variable {P P' : α → Prop}

theorem pure {a : α} (h : P a) : Settles (pure a : Noting ε α) P Q :=
  fun _ => h

theorem throw {e : ε} (h : Q e) : Settles (throw e : Noting ε α) P Q :=
  fun _ => h

theorem note (n : Notice) : Settles (note n : Noting ε Unit) (fun _ => True) Q :=
  fun _ => trivial

theorem lift {x : Except ε α} (h : Ends P Q x) : Settles (lift x) P Q :=
  fun _ => h

-- An attempt does not fail.
theorem attempt {Q : ε' → Prop} (h : x.Steady) : Settles (attempt x) (· = x.result.1) Q :=
  fun ns => h.run_eq ns

theorem bind {f : α → Noting ε β} {R : β → Prop} (h : x.Settles P Q) (hf : ∀ a, P a → (f a).Settles R Q) :
    (x >>= f).Settles R Q := by
  intro ns
  have hn := h ns
  rw [ExceptT.run_bind, StateT.run_bind]
  cases hr : x.run.run ns
  case mk r m =>
    rw [hr] at hn
    cases r
    case error => exact hn
    case ok a => exact hf a hn m

-- What it comes to, it comes to after some notices.
theorem reached (h : x.Settles P Q) : x.Settles (fun a => ∃ ns ns', x.Yields ns a ns') Q := by
  intro ns
  have hn := h ns
  cases hr : x.run.run ns
  case mk r ns' =>
    rw [hr] at hn
    cases r
    case error => exact hn
    case ok a => exact ⟨ns, ns', hr⟩

theorem mono (h : x.Settles P Q) (hp : ∀ a, P a → P' a) (hq : ∀ e, Q e → Q' e) : x.Settles P' Q' :=
  fun ns => (h ns).mono hp hq

theorem result (h : x.Settles P Q) : Ends P Q x.result.1 :=
  h []

end Settles

-- Every failure of a computation is as `Q` says, whatever has been noticed before.
def Fails (x : Noting ε α) (Q : ε → Prop) : Prop :=
  ∀ notices, Ends (fun _ => True) Q (x.run.run notices).1

namespace Fails

theorem pure (a : α) : Fails (pure a : Noting ε α) Q :=
  fun _ => trivial

theorem throw {e : ε} (h : Q e) : Fails (throw e : Noting ε α) Q :=
  fun _ => h

theorem note (n : Notice) : Fails (note n : Noting ε Unit) Q :=
  fun _ => trivial

theorem lift {x : Except ε α} (h : Ends (fun _ => True) Q x) : Fails (lift x) Q :=
  fun _ => h

theorem bind {f : α → Noting ε β} (hx : x.Fails Q)
    (hf : ∀ a, (∃ ns ns', x.Yields ns a ns') → (f a).Fails Q) : (x >>= f).Fails Q :=
  (Settles.reached hx).bind hf

theorem mono (h : x.Fails Q) (hq : ∀ e, Q e → Q' e) : x.Fails Q' :=
  fun ns => (h ns).mono (fun _ h => h) hq

end Fails
end Noting
end Copybook
