import Mathlib
import Copybook.Text.Blank
import Copybook.Text.Case

/-!
Texts one after another: with single spaces or another separator between them, and taken apart again.
-/

namespace Copybook

namespace Text

-- A text is cut at one of its places.
theorem exists_cut_iff {p : Text → Text → Prop} {s : Text} :
    (∃ a b, s = a ++ b ∧ p a b) ↔ ∃ n ∈ List.range (s.length + 1), p (s.take n) (s.drop n) := by
  constructor
  · rintro ⟨a, b, rfl, h⟩
    exact ⟨a.length, by simp, by simpa using h⟩
  · rintro ⟨n, -, h⟩
    exact ⟨s.take n, s.drop n, (List.take_append_drop n s).symm, h⟩

theorem exists_cut_cons_iff {p : Text → Text → Prop} {c : Char} {s : Text} :
    (∃ a b, c :: s = a ++ b ∧ p a b) ↔ p [] (c :: s) ∨ ∃ a b, s = a ++ b ∧ p (c :: a) b := by
  constructor
  · rintro ⟨_ | ⟨d, a⟩, b, he, h⟩
    case nil => exact .inl (he ▸ h)
    case cons =>
      obtain ⟨rfl, rfl⟩ := List.cons.inj he
      exact .inr ⟨a, b, rfl, h⟩
  · rintro (h | ⟨a, b, rfl, h⟩)
    case inl => exact ⟨[], c :: s, rfl, h⟩
    case inr => exact ⟨c :: a, b, rfl, h⟩

-- Texts with a space before each of them.
def trail (pieces : List Text) : Text :=
  pieces.flatMap (' ' :: ·)

-- Texts with a space after each of them.
def lead (pieces : List Text) : Text :=
  pieces.flatMap (· ++ [' '])

theorem trail_cons (s : Text) (pieces : List Text) : trail (s :: pieces) = ' ' :: (s ++ trail pieces) :=
  rfl

theorem trail_append (pieces rest : List Text) : trail (pieces ++ rest) = trail pieces ++ trail rest :=
  List.flatMap_append

theorem join_cons (s : Text) (pieces : List Text) : join [' '] (s :: pieces) = s ++ trail pieces := by
  induction pieces generalizing s
  case nil => simp [join, trail]
  case cons t pieces hi => rw [join, hi, trail_cons, List.append_assoc, List.singleton_append]

theorem trail_of_ne_nil {pieces : List Text} (hn : pieces ≠ []) : trail pieces = ' ' :: join [' '] pieces := by
  obtain ⟨s, pieces, rfl⟩ := List.exists_cons_of_ne_nil hn
  rw [trail_cons, join_cons]

theorem join_append {pieces : List Text} (hn : pieces ≠ []) (rest : List Text) :
    join [' '] (pieces ++ rest) = join [' '] pieces ++ trail rest := by
  obtain ⟨s, pieces, rfl⟩ := List.exists_cons_of_ne_nil hn
  rw [List.cons_append, join_cons, join_cons, trail_append, List.append_assoc]

-- A text among others has them before it and after it.
theorem join_append_cons (pieces rest : List Text) (s : Text) :
    join [' '] (pieces ++ s :: rest) = lead pieces ++ (s ++ trail rest) := by
  induction pieces
  case nil => exact join_cons s rest
  case cons t pieces hi =>
    have hn : pieces ++ s :: rest ≠ [] := by simp
    obtain ⟨u, us, he⟩ := List.exists_cons_of_ne_nil hn
    rw [List.cons_append, he, join, ←he, hi]
    simp [lead]

theorem mem_join {pieces : List Text} {c : Char} (h : c ∈ join [' '] pieces) : c = ' ' ∨ ∃ s ∈ pieces, c ∈ s := by
  cases pieces
  case nil => contradiction
  case cons s pieces =>
    rw [join_cons, List.mem_append, trail, List.mem_flatMap] at h
    rcases h with h | ⟨t, ht, h⟩
    · exact .inr ⟨s, List.mem_cons_self, h⟩
    · exact (List.mem_cons.mp h).imp_right fun h => ⟨t, List.mem_cons_of_mem s ht, h⟩

theorem mem_join_of_mem {pieces : List Text} {s : Text} {c : Char} (hs : s ∈ pieces) (h : c ∈ s) :
    c ∈ join [' '] pieces := by
  obtain ⟨pre, post, rfl⟩ := List.append_of_mem hs
  rw [join_append_cons]
  simp [h]

section Split

variable {s t : Text} {c : Char}

theorem splitOn_append (h : c ∉ s) (t : Text) : splitOn c (s ++ c :: t) = s :: splitOn c t := by
  induction s
  case nil =>
    rw [List.nil_append, splitOn]
    split
    case _ hn => exact absurd hn (splitOn_ne_nil c t)
    case _ hs => simp [hs]
  case cons d s hi =>
    rw [List.mem_cons, not_or] at h
    rw [List.cons_append, splitOn, hi h.right]
    simp [Ne.symm h.left]

theorem splitOn_of_not_mem (h : c ∉ s) : splitOn c s = [s] := by
  induction s
  case nil => rfl
  case cons d s hi =>
    rw [List.mem_cons, not_or] at h
    rw [splitOn, hi h.right]
    simp [Ne.symm h.left]

-- Texts without the separator are what the joined text is cut into again.
theorem splitOn_join {pieces : List Text} (hn : pieces ≠ []) (h : ∀ s ∈ pieces, c ∉ s) :
    splitOn c (join [c] pieces) = pieces := by
  induction pieces
  case nil => contradiction
  case cons s pieces hi =>
    obtain ⟨hs, h⟩ := List.forall_mem_cons.mp h
    cases pieces
    case nil => exact splitOn_of_not_mem hs
    case cons t rest =>
      rw [join, List.append_assoc, List.singleton_append, splitOn_append hs, hi (List.cons_ne_nil _ _) h]

-- What has no separator in it stands before the first piece of the rest.
theorem splitOn_append_of_not_mem (h : c ∉ s) (t : Text) : splitOn c (s ++ t) = (splitOn c t).modifyHead (s ++ ·) := by
  obtain ⟨piece, pieces, hp⟩ := List.exists_cons_of_ne_nil (splitOn_ne_nil c t)
  induction s
  case nil => simp [hp]
  case cons d s hi =>
    rw [List.mem_cons, not_or] at h
    rw [List.cons_append, splitOn, hi h.right, hp]
    simp [Ne.symm h.left]

theorem join_splitOn (c : Char) (s : Text) : join [c] (splitOn c s) = s := by
  induction s
  case nil => rfl
  case cons d s hi =>
    obtain ⟨piece, pieces, hp⟩ := List.exists_cons_of_ne_nil (splitOn_ne_nil c s)
    rw [hp] at hi
    rw [splitOn, hp]
    dsimp only
    split
    case isTrue h => rw [join, hi, h]; rfl
    case isFalse =>
      rw [←hi]
      cases pieces <;> rfl

end Split

variable {s t : Text} {pieces : List Text}

theorem wordsFrom_append (h : ∀ c ∈ s, isBlank c = false) (word t : Text) :
    wordsFrom word (s ++ t) = wordsFrom (s.reverse ++ word) t := by
  induction s generalizing word
  case nil => rfl
  case cons c s hi =>
    have ⟨hc, h⟩ := List.forall_mem_cons.mp h
    have hstep : wordsFrom word (c :: (s ++ t)) = wordsFrom (c :: word) (s ++ t) := by simp [wordsFrom, hc]
    rw [List.cons_append, hstep, hi h, List.reverse_cons, List.append_assoc, List.singleton_append]

-- Empty pieces are no words.
theorem words_join (h : ∀ s ∈ pieces, ∀ c ∈ s, isBlank c = false) :
    words (join [' '] pieces) = pieces.filter (!·.isEmpty) := by
  have of_trail {pieces : List Text} (h : ∀ s ∈ pieces, ∀ c ∈ s, isBlank c = false) (word : Text) :
      wordsFrom word (trail pieces) = (word.reverse :: pieces).filter (!·.isEmpty) := by
    induction pieces generalizing word
    case nil => cases word <;> simp [trail, wordsFrom]
    case cons s pieces hi =>
      obtain ⟨hs, h⟩ := List.forall_mem_cons.mp h
      have hstep : wordsFrom word (' ' :: (s ++ trail pieces)) =
          if word.isEmpty then wordsFrom [] (s ++ trail pieces) else word.reverse :: wordsFrom [] (s ++ trail pieces) := by
        rw [wordsFrom, if_pos (by decide)]
      rw [trail_cons, hstep, wordsFrom_append hs, hi h, List.append_nil, List.reverse_reverse]
      cases word <;> simp
  cases pieces
  case nil => rfl
  case cons s pieces =>
    obtain ⟨hs, h⟩ := List.forall_mem_cons.mp h
    rw [join_cons, words, wordsFrom_append hs, of_trail h, List.append_nil, List.reverse_reverse]

theorem upper_trail (pieces : List Text) : upper (trail pieces) = trail (pieces.map upper) := by
  induction pieces
  case nil => rfl
  case cons s pieces hi =>
    rw [trail_cons, List.map_cons, trail_cons, ←List.singleton_append, upper_append, upper_append, hi]
    rfl

theorem upper_join (pieces : List Text) : upper (join [' '] pieces) = join [' '] (pieces.map upper) := by
  cases pieces
  case nil => rfl
  case cons s pieces => rw [join_cons, upper_append, upper_trail, List.map_cons, join_cons]

end Text
end Copybook
