import Mathlib
import Copybook.Text.Integer

/-!
What is dropped at the ends of a text: blanks and other padding, and a sign.
-/

namespace Copybook.Text

variable {p : Char → Bool}

theorem dropRight_append_dropRight (s t : Text) : dropRight p (s ++ dropRight p t) = dropRight p (s ++ t) := by
  induction t using List.reverseRecOn
  case nil => rfl
  case append_singleton t c hi =>
    rw [←List.append_assoc]
    cases hc : p c
    case false => rw [dropRight_concat_of_neg _ hc, ←List.append_assoc]
    case true => rw [dropRight_concat_of_pos _ hc, dropRight_concat_of_pos _ hc, hi]

theorem dropRight_append_of_all (s : Text) {t : Text} (h : ∀ c ∈ t, p c) : dropRight p (s ++ t) = dropRight p s := by
  have hn : dropRight p t = [] := by
    rw [dropRight, List.dropWhile_eq_nil_iff.mpr fun c hc => h c (List.mem_reverse.mp hc), List.reverse_nil]
  rw [←dropRight_append_dropRight, hn, List.append_nil]

theorem dropRight_eq_nil_iff {s : Text} : dropRight p s = [] ↔ ∀ c ∈ s, p c := by
  simp [dropRight]

-- Text without blanks is left as it is.
theorem strip_of_not_blank {s : Text} (h : ∀ c ∈ s, isBlank c = false) : strip s = s := by
  have keep {s : Text} (h : ∀ c ∈ s, isBlank c = false) : s.dropWhile isBlank = s := by
    cases s
    case nil => rfl
    case cons c s => simp [h c]
  rw [strip, keep h, dropRight, keep fun c hc => h c (List.mem_reverse.mp hc), List.reverse_reverse]

theorem takeSign_of_ne {c : Char} {s : Text} (hm : c ≠ '-') (hp : c ≠ '+') : takeSign (c :: s) = (false, c :: s) := by
  rw [takeSign]
  · exact fun _ he => hm (List.cons.inj he).left
  · exact fun _ he => hp (List.cons.inj he).left

end Copybook.Text
