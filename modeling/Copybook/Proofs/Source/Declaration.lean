import Copybook.Proofs.Except
import Copybook.Proofs.Text.Digits
import Copybook.Source.Declaration

/-!
What the declarations of a source come from: each from a statement of its own, and its clauses from the clauses there.
-/

namespace Copybook

namespace Declaration

-- Whether one of some siblings redefines the item of that name before them.
def redefined (name : Text) : List Declaration → Bool
  | [] => false
  | d :: ds => d.redefines == some name || (d.name != name && redefined name ds)

end Declaration

namespace Source

variable {statements : List Text} {declarations : List Declaration} {d : Declaration}

theorem declarationsFrom_mem {n : Nesting} (h : declarationsFrom n statements = .ok declarations)
    (hd : d ∈ declarations) :
    ∃ line ∈ statements, ∃ level name c n, declare line = .ok (level, name, c) ∧
      d = Nesting.place n (effectiveLevel level) name c line := by
  induction statements generalizing n declarations <;> simp only [declarationsFrom] at h
  case nil =>
    cases h
    contradiction
  case cons line lines hi =>
    have later {n : Nesting} {ds : List Declaration} (h : declarationsFrom n lines = .ok ds) (hd : d ∈ ds) :
        ∃ l ∈ line :: lines, ∃ level name c n, declare l = .ok (level, name, c) ∧
          d = Nesting.place n (effectiveLevel level) name c l :=
      have ⟨l, hl, h⟩ := hi h hd
      ⟨l, List.mem_cons_of_mem line hl, h⟩
    split at h
    case isTrue => exact later h hd
    case isFalse =>
      have ⟨(level, name, c), hc, h⟩ := bind_eq_ok_iff.mp h
      simp only at h
      split at h
      case isTrue => exact later h hd
      case isFalse =>
        have ⟨_, h⟩ := check_eq_ok_iff.mp h
        have ⟨ds, hds, h⟩ := bind_eq_ok_iff.mp h
        cases h
        cases List.mem_cons.mp hd
        case inl hd => exact ⟨line, by simp, level, name, c, _, mapError_eq_ok_iff.mp hc, hd⟩
        case inr hd => exact later hds hd

theorem clauses_of_declare {line name : Text} {level : Nat} {c : Clauses}
    (h : declare line = .ok (level, name, c)) : ∃ s, clauses s = .ok c := by
  unfold declare at h
  split at h
  case _ => contradiction
  case _ =>
    have ⟨c', hc, h⟩ := bind_eq_ok_iff.mp h
    cases h
    exact ⟨_, hc⟩

theorem occurs_of_clauses {s : Text} {c : Clauses} {count : Nat} (h : clauses s = .ok c)
    (hc : c.occurs = some count) : 0 < count ∧ count < 10 ^ maxDigits := by
  have ⟨(occurs, rest), ho, h⟩ := bind_eq_ok_iff.mp h
  have ⟨_, _, h⟩ := bind_eq_ok_iff.mp h
  cases h
  have ⟨_, ho⟩ := check_eq_ok_iff.mp ho
  split at ho
  case _ =>
    have ⟨n, hn, ho⟩ := bind_eq_ok_iff.mp ho
    have ⟨hz, ho⟩ := check_eq_ok_iff.mp ho
    cases ho
    cases hc
    exact ⟨Nat.pos_of_ne_zero hz, Text.lt_of_readNat (mapError_eq_ok_iff.mp hn)⟩
  case _ =>
    cases ho
    contradiction

-- No item is read without occurrences, or with more of them than can be written.
theorem occurs_of_declarations {count : Nat} (h : Source.declarations statements = .ok declarations)
    (hd : d ∈ declarations) (hc : d.occurs = some count) : 0 < count ∧ count < 10 ^ maxDigits := by
  have ⟨_, _, _, _, _, _, hl, he⟩ := declarationsFrom_mem h hd
  have ⟨_, hs⟩ := clauses_of_declare hl
  rw [he] at hc
  exact occurs_of_clauses hs hc

-- One character or more, all of them fit for a name.
def IsName (name : Text) : Prop :=
  name ≠ [] ∧ ∀ c ∈ name, isNameChar c

theorem IsName.normalizeName {name : Text} (h : IsName name) : IsName (normalizeName name) := by
  refine ⟨by simpa [Copybook.normalizeName, Text.replaceChar] using h.left, fun c hc => ?_⟩
  obtain ⟨d, hd, he⟩ := List.mem_map.mp hc
  split at he
  case isTrue => exact he ▸ by decide
  case isFalse => exact he ▸ h.right d hd

end Source
end Copybook
