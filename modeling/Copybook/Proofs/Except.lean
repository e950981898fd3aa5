import Mathlib

/-!
What there has been of a computation that may fail when it has come to a result, and what is so of every result
and every failure that it may come to.
-/

namespace Copybook

variable {ε ε' α β : Type}

theorem ok_bind (a : α) (f : α → Except ε β) : (.ok a >>= f) = f a :=
  rfl

theorem error_bind (e : ε) (f : α → Except ε β) : (.error e >>= f) = .error e :=
  rfl

theorem bind_eq_ok_iff {x : Except ε α} {f : α → Except ε β} {b : β} :
    (x >>= f) = .ok b ↔ ∃ a, x = .ok a ∧ f a = .ok b := by
  cases x
  case error => exact ⟨nofun, fun ⟨_, h, _⟩ => nomatch h⟩
  case ok a => exact ⟨fun h => ⟨a, rfl, h⟩, fun ⟨_, ha, h⟩ => Except.ok.inj ha ▸ h⟩

theorem bind_eq_error_iff {x : Except ε α} {f : α → Except ε β} {e : ε} :
    (x >>= f) = .error e ↔ x = .error e ∨ ∃ a, x = .ok a ∧ f a = .error e := by
  cases x
  case error => exact ⟨fun h => .inl <| congrArg _ (Except.error.inj h), fun h => h.elim (congrArg _ ∘ Except.error.inj)
    fun ⟨_, h, _⟩ => nomatch h⟩
  case ok a => exact ⟨fun h => .inr ⟨a, rfl, h⟩, fun h => h.elim nofun fun ⟨_, ha, h⟩ => Except.ok.inj ha ▸ h⟩

theorem mapError_eq_ok_iff {x : Except ε α} {f : ε → ε'} {a : α} : x.mapError f = .ok a ↔ x = .ok a := by
  cases x
  case error => exact ⟨nofun, nofun⟩
  case ok => exact ⟨congrArg _ ∘ Except.ok.inj, congrArg _ ∘ Except.ok.inj⟩

theorem toOption_bind (x : Except ε α) (f : α → Except ε β) :
    (x >>= f).toOption = x.toOption.bind fun a => (f a).toOption := by
  cases x <;> rfl

theorem toOption_eq_some_iff {x : Except ε α} {a : α} : x.toOption = some a ↔ x = .ok a := by
  cases x
  case error => exact ⟨nofun, nofun⟩
  case ok => exact ⟨congrArg _ ∘ Option.some.inj, congrArg _ ∘ Except.ok.inj⟩

theorem map_map (x : Except ε α) (f : α → β) {γ : Type} (g : β → γ) : (x.map f).map g = x.map fun a => g (f a) := by
  cases x <;> rfl

theorem map_eq_ok_iff {x : Except ε α} {f : α → β} {b : β} : x.map f = .ok b ↔ ∃ a, x = .ok a ∧ f a = b := by
  cases x
  case error => exact ⟨nofun, fun ⟨_, h, _⟩ => nomatch h⟩
  case ok a => exact ⟨fun h => ⟨a, rfl, Except.ok.inj h⟩, fun ⟨_, ha, h⟩ => Except.ok.inj ha ▸ congrArg _ h⟩

theorem map_eq_error_iff {x : Except ε α} {f : α → β} {e : ε} : x.map f = .error e ↔ x = .error e := by
  cases x
  case error => exact ⟨congrArg _ ∘ Except.error.inj, congrArg _ ∘ Except.error.inj⟩
  case ok => exact ⟨nofun, nofun⟩

-- What comes after a check is done if the check has not failed.
theorem check_eq_ok_iff {p : Prop} [Decidable p] {e : ε} {x : Except ε α} {a : α} :
    (do
      if p then throw e
      x) = .ok a ↔ ¬p ∧ x = .ok a := by
  by_cases h : p
  case pos =>
    rw [if_pos h]
    exact ⟨nofun, fun hn => absurd h hn.left⟩
  case neg => simp [h]

theorem forall_of_forall₂ {r : α → β → Prop} {p : β → Prop} {as : List α} {bs : List β}
    (h : List.Forall₂ r as bs) (hr : ∀ a ∈ as, ∀ b, r a b → p b) : ∀ b ∈ bs, p b := by
  induction h
  case nil => exact nofun
  case cons hb _ hi =>
    have ⟨ha, has⟩ := List.forall_mem_cons.mp hr
    exact List.forall_mem_cons.mpr ⟨ha _ hb, hi has⟩

-- Computations one after another come to a list if each of them comes to its element.
theorem mapM_eq_ok_iff {f : α → Except ε β} {as : List α} {bs : List β} :
    as.mapM f = .ok bs ↔ List.Forall₂ (fun a b => f a = .ok b) as bs := by
  induction as generalizing bs
  case nil =>
    rw [List.mapM_nil, List.forall₂_nil_left_iff]
    exact ⟨fun h => (Except.ok.inj h).symm, fun h => congrArg _ h.symm⟩
  case cons a as hi =>
    rw [List.mapM_cons, bind_eq_ok_iff, List.forall₂_cons_left_iff]
    refine exists_congr fun b => ?_
    rw [bind_eq_ok_iff]
    constructor
    · rintro ⟨hb, bs', hbs, he⟩
      exact ⟨bs', hb, hi.mp hbs, (Except.ok.inj he).symm⟩
    · rintro ⟨bs', hb, hbs, he⟩
      exact ⟨hb, bs', hi.mpr hbs, congrArg _ he.symm⟩

-- The result is as `P` says, or the failure as `Q` does.
def Ends (P : α → Prop) (Q : ε → Prop) : Except ε α → Prop
  | .ok a => P a
  | .error e => Q e

namespace Ends

variable {x : Except ε α} {P P' : α → Prop} {Q Q' : ε → Prop}

theorem ok {a : α} (h : Ends P Q x) (hx : x = .ok a) : P a := by
  rwa [hx] at h

theorem error {e : ε} (h : Ends P Q x) (hx : x = .error e) : Q e := by
  rwa [hx] at h

theorem self (x : Except ε α) : Ends (x = .ok ·) (x = .error ·) x := by
  cases x <;> rfl

-- A check, and what comes after it if it has not failed.
theorem check {p : Prop} [Decidable p] {e : ε} (he : p → Q e) (hx : ¬p → Ends P Q x) :
    Ends P Q (do
      if p then throw e
      x) := by
  by_cases h : p
  case pos =>
    rw [if_pos h]
    exact he h
  case neg => simpa [h] using hx h

theorem mono (h : Ends P Q x) (hp : ∀ a, P a → P' a) (hq : ∀ e, Q e → Q' e) : Ends P' Q' x := by
  cases x
  case error e => exact hq e h
  case ok a => exact hp a h

theorem bind {f : α → Except ε β} {R : β → Prop} (h : Ends P Q x) (hf : ∀ a, P a → Ends R Q (f a)) :
    Ends R Q (x >>= f) := by
  cases x
  case error => exact h
  case ok a => exact hf a h

theorem map {f : α → β} {R : β → Prop} (h : Ends P Q x) (hf : ∀ a, P a → R (f a)) : Ends R Q (x.map f) := by
  cases x
  case error => exact h
  case ok a => exact hf a h

-- Computations one after another fail only as one of them does.
theorem mapM {f : α → Except ε β} {as : List α} (h : ∀ a ∈ as, Ends (fun _ => True) Q (f a)) :
    Ends (fun _ => True) Q (as.mapM f) := by
  induction as
  case nil => trivial
  case cons a as hi =>
    obtain ⟨ha, has⟩ := List.forall_mem_cons.mp h
    rw [List.mapM_cons]
    exact ha.bind fun _ _ => (hi has).bind fun _ _ => trivial

end Ends
end Copybook
