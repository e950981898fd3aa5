import Copybook.Text.Blank

/-!
The lines of a text that is put together from lines.
-/

namespace Copybook.Text

variable {s : Text}

-- The lines one after another, each with its end.
def unlines (lines : List Text) : Text :=
  lines.flatMap (· ++ ['\n'])

theorem linesFrom_append (h : ∀ c ∈ s, isLineEnd c = false) (line t : Text) :
    linesFrom line (s ++ t) = linesFrom (s.reverse ++ line) t := by
  induction s generalizing line
  case nil => rfl
  case cons c s hi =>
    have ⟨hc, h⟩ := List.forall_mem_cons.mp h
    rw [List.cons_append, linesFrom, hc, if_neg Bool.false_ne_true, hi h, List.reverse_cons, List.append_assoc,
      List.singleton_append]
    -- A carriage return would end the line by itself.
    rintro t' rfl -
    contradiction

theorem lines_of_line (h : ∀ c ∈ s, isLineEnd c = false) (hn : s ≠ []) : lines s = [s] := by
  have hl := linesFrom_append h [] []
  rw [List.append_nil, List.append_nil] at hl
  rw [lines, hl, linesFrom, if_neg (by simpa using hn), List.reverse_reverse]

theorem lines_unlines {lines : List Text} (h : ∀ s ∈ lines, ∀ c ∈ s, isLineEnd c = false) :
    (unlines lines).lines = lines := by
  induction lines
  case nil => rfl
  case cons s lines hi =>
    have ⟨hs, hss⟩ := List.forall_mem_cons.mp h
    have hend : linesFrom s.reverse ('\n' :: unlines lines) = s :: linesFrom [] (unlines lines) := by
      simp [linesFrom, show isLineEnd '\n' = true from by decide]
    rw [unlines, List.flatMap_cons, List.append_assoc, Text.lines, linesFrom_append hs, List.append_nil]
    exact hend.trans <| congrArg (s :: ·) (hi hss)

end Copybook.Text
