import Copybook.Proofs.Except
import Copybook.Proofs.Record.Place

/-!
The kinds of the faults that keys and fields meet.
-/

namespace Copybook

namespace FaultKind

variable {kind : FaultKind} {v : Value}

theorem showing_of_isShowable (h : v.isShowable) : kind.showing v = kind :=
  if_pos h

theorem showing_eq (kind : FaultKind) (v : Value) : kind.showing v = kind ∨ kind.showing v = tooManyDigits := by
  unfold showing
  split
  · exact .inl rfl
  · exact .inr rfl

end FaultKind

theorem Value.text_isShowable (s : Text) : (Value.text s).isShowable :=
  rfl

namespace Place

variable {p q : Place} {key v : Value} {e : AccessFault} {s : Spot}

-- Keys can only be applied to accessors.
theorem spot?_of_resolve (h : p.resolve key = .ok q) : p.spot? = none := by
  unfold resolve at h
  unfold spot?
  split at h <;> simp_all

theorem resolve_of_spot? (h : p.spot? = some s) (key : Value) : p.resolve key = .error .notAccessor := by
  unfold spot? at h
  unfold resolve
  split at h <;> simp_all

theorem resolve_kind (hp : p.spot? = none) (h : p.resolve key = .error e) :
    e.kind = FaultKind.unknownField.showing key := by
  unfold resolve at h
  split at h
  case _ =>
    split at h
    case _ =>
      simp only at h
      split at h <;> cases h
      exact (FaultKind.showing_of_isShowable <| Value.text_isShowable _).symm
    case _ => cases h; rfl
  case _ =>
    split at h
    case _ => split at h <;> cases h; rfl
    case _ => cases h; rfl
  case _ hn => simp [spot?, hn] at hp

theorem assignee_of_resolve (h : p.resolve key = .ok q) (hs : q.spot? = some s) (v : Value) :
    p.assignee key v = .ok s :=
  bind_eq_ok_iff.mpr ⟨q, h, by rw [hs]; rfl⟩

end Place
end Copybook
