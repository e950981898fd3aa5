import Copybook.Proofs.Source.Statement
import Copybook.Source.Clause

/-!
Quoted literals: a text between marks, each mark in it doubled. The readers of statements and of clauses take a literal
as a whole.
-/

namespace Copybook.Source

variable {mark c : Char} {s t : Text}

-- Every mark doubled.
def doubled (mark : Char) (t : Text) : Text :=
  t.flatMap fun c => if c = mark then [mark, mark] else [c]

-- The literal of a text.
def quoted (mark : Char) (t : Text) : Text :=
  mark :: (doubled mark t ++ [mark])

theorem doubled_cons_self (mark : Char) (t : Text) : doubled mark (mark :: t) = mark :: mark :: doubled mark t := by
  simp [doubled]

theorem doubled_cons_of_ne (h : c ≠ mark) (t : Text) : doubled mark (c :: t) = c :: doubled mark t := by
  simp [doubled, h]

theorem doubled_append (mark : Char) (s t : Text) : doubled mark (s ++ t) = doubled mark s ++ doubled mark t :=
  List.flatMap_append

theorem mem_doubled : c ∈ doubled mark t ↔ c ∈ t := by
  induction t
  case nil => rfl
  case cons d t hi =>
    by_cases h : d = mark
    case pos =>
      rw [h, doubled_cons_self]
      simp [hi]
    case neg =>
      rw [doubled_cons_of_ne h]
      simp [hi]

-- No character of a literal but its mark changes what is open.
theorem openAfter_of_ne (h : c ≠ mark) : openAfter (some mark) c = some mark :=
  if_neg h

theorem openAfter_mark (mark : Char) : openAfter (some mark) mark = none :=
  if_pos rfl

theorem openAfter_none (h : isQuote mark) : openAfter none mark = some mark :=
  if_pos h

theorem not_isBlank_of_isQuote (h : isQuote c) : isBlank c = false := by
  simp only [isQuote, Bool.or_eq_true, beq_iff_eq] at h
  rcases h with rfl | rfl <;> decide

theorem ne_of_isQuote (hm : isQuote mark) (hc : isQuote c = false) : mark ≠ c :=
  fun he => absurd (he ▸ hm) (Bool.eq_false_iff.mp hc)

-- A literal is closed by its last mark and by no other.
theorem foldl_doubled (hm : isQuote mark) (t : Text) :
    (doubled mark t ++ [mark]).foldl openAfter (some mark) = none := by
  induction t
  case nil => exact openAfter_mark mark
  case cons c t hi =>
    by_cases h : c = mark
    case pos => rwa [h, doubled_cons_self, List.cons_append, List.cons_append, List.foldl_cons, openAfter_mark,
      List.foldl_cons, openAfter_none hm]
    case neg => rwa [doubled_cons_of_ne h, List.cons_append, List.foldl_cons, openAfter_of_ne h]

theorem collapseFrom_doubled (hm : isQuote mark) (spaced : Bool) (t s : Text) :
    collapseFrom (some mark) spaced (doubled mark t ++ mark :: s) =
      doubled mark t ++ mark :: collapseFrom none false s := by
  have keep (c : Char) : ((some mark).isNone && isBlank c) = false := rfl
  induction t generalizing spaced
  case nil => rw [doubled, List.flatMap_nil, List.nil_append, collapseFrom_kept (keep mark), openAfter_mark]; rfl
  case cons c t hi =>
    by_cases h : c = mark
    case pos => rw [h, doubled_cons_self, List.cons_append, List.cons_append, collapseFrom_kept (keep mark),
      openAfter_mark, collapseFrom_kept (by simp [not_isBlank_of_isQuote hm]), openAfter_none hm, hi]; rfl
    case neg => rw [doubled_cons_of_ne h, List.cons_append, collapseFrom_kept (keep c), openAfter_of_ne h, hi]; rfl

-- The blanks in a literal are left as they are.
theorem collapseFrom_quoted (hm : isQuote mark) (spaced : Bool) (t s : Text) :
    collapseFrom none spaced (quoted mark t ++ s) = quoted mark t ++ collapseFrom none false s := by
  unfold quoted
  rw [List.cons_append, collapseFrom_kept (by simp [not_isBlank_of_isQuote hm]), openAfter_none hm, List.append_assoc,
    List.singleton_append, collapseFrom_doubled hm, List.cons_append, List.append_assoc, List.singleton_append]

-- So is what has neither blanks nor quotation marks.
theorem collapseFrom_word (h : ∀ c ∈ s, isBlank c = false ∧ isQuote c = false) (hn : s ≠ []) (spaced : Bool)
    (t : Text) : collapseFrom none spaced (s ++ t) = s ++ collapseFrom none false t := by
  induction s generalizing spaced
  case nil => exact absurd rfl hn
  case cons c s hi =>
    obtain ⟨hc, h⟩ := List.forall_mem_cons.mp h
    rw [List.cons_append, collapseFrom_kept (by simp [hc.left]), openAfter, hc.right]
    cases s
    case nil => rfl
    case cons => exact congrArg (c :: ·) (hi h (List.cons_ne_nil _ _) false)

namespace Clause

theorem closeQuote_doubled (hs : s.head? ≠ some mark) (fallback : Option Text) (t : Text) :
    closeQuote mark fallback (doubled mark t ++ mark :: s) = some s := by
  induction t generalizing fallback
  case nil =>
    cases s
    case nil => simp [doubled, closeQuote]
    case cons d s =>
      have hd : d ≠ mark := fun h => hs (congrArg some h)
      simp [doubled, closeQuote, hd]
  case cons c t hi =>
    by_cases h : c = mark
    case pos =>
      rw [h, doubled_cons_self, List.cons_append, List.cons_append, closeQuote, if_pos rfl, if_pos rfl]
      exact hi _
    case neg =>
      rw [doubled_cons_of_ne h, List.cons_append]
      cases hd : doubled mark t ++ mark :: s
      case nil => simp at hd
      case cons d s =>
        rw [closeQuote, if_neg h, ←hd]
        exact hi _

end Clause
end Copybook.Source
