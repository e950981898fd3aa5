import Mathlib
import Copybook.Text.Case
import Copybook.Text.Digits

/-!
A word in capitals at the start of a text in capitals comes from as many characters at the start of the text itself,
unless letters of the word are the capital of a single character. Digits have no capitals.
-/

namespace Copybook

-- What the capital of a character is: itself, another character, or several that are listed.
theorem upperChar_cases (c : Char) : (c.toNat < 0x80 ∧ upperChar c = [c.toUpper]) ∨
    (∃ entry ∈ longCapitals, upperChar c = entry.2.map Char.ofNat) ∨
    (∃ run ∈ upperRuns, run.covers c.toNat ∧ upperChar c = [run.apply c.toNat]) ∨
    (0x80 ≤ c.toNat ∧ upperChar c = [c]) := by
  unfold upperChar
  by_cases hc : c.toNat < 0x80
  case pos => exact .inl ⟨hc, if_pos hc⟩
  case neg =>
    rw [if_neg hc]
    cases hl : longCapitals.lookup c.toNat
    case some capitals =>
      have ⟨_, _, he, _⟩ := List.lookup_eq_some_iff.mp hl
      exact .inr <| .inl ⟨(c.toNat, capitals), by simp [he], rfl⟩
    case none =>
      cases hr : upperRuns.find? (·.covers c.toNat)
      case some run =>
        exact .inr <| .inr <| .inl ⟨run, List.mem_of_find?_eq_some hr, by simpa using List.find?_some hr, rfl⟩
      case none => exact .inr <| .inr <| .inr ⟨Nat.le_of_not_lt hc, rfl⟩

theorem upperChar_ne_nil (c : Char) : upperChar c ≠ [] := by
  have all : ∀ entry ∈ longCapitals, entry.2.map Char.ofNat ≠ [] := by decide +kernel
  rcases upperChar_cases c with ⟨_, h⟩ | ⟨entry, he, h⟩ | ⟨_, _, _, h⟩ | ⟨_, h⟩ <;> rw [h]
  case inr.inl => exact all entry he
  all_goals simp

-- A capital of several characters is one of those that are listed.
theorem mem_longCapitals {c a b : Char} {t : Text} (h : upperChar c = a :: b :: t) :
    ∃ entry ∈ longCapitals, entry.2.map Char.ofNat = a :: b :: t := by
  rcases upperChar_cases c with ⟨_, hc⟩ | ⟨entry, he, hc⟩ | ⟨_, _, _, hc⟩ | ⟨_, hc⟩ <;> rw [hc] at h
  case inr.inl => exact ⟨entry, he, h⟩
  all_goals simp at h

-- No letter has a blank as its capital.
theorem eq_blank_of_upperChar {c : Char} {t : Text} (h : upperChar c = ' ' :: t) : c = ' ' := by
  rcases upperChar_cases c with ⟨hn, hc⟩ | ⟨entry, he, hc⟩ | ⟨run, hm, hr, hc⟩ | ⟨_, hc⟩ <;> rw [hc] at h
  case inl =>
    have all : ∀ n < 0x80, (Char.ofNat n).toUpper = ' ' → Char.ofNat n = ' ' := by decide +kernel
    have hc := all c.toNat hn
    rw [Char.ofNat_toNat] at hc
    exact hc (List.cons.inj h).left
  case inr.inl =>
    have all : ∀ entry ∈ longCapitals, (entry.2.map Char.ofNat).head? ≠ some ' ' := by decide +kernel
    exact absurd (congrArg List.head? h) (all entry he)
  case inr.inr.inl =>
    have all : ∀ run ∈ upperRuns, (0x20 : Int) < run.first + run.shift := by decide +kernel
    have hlt := all run hm
    have hfirst : run.first ≤ c.toNat := by
      simp only [CaseRun.covers, Bool.and_eq_true, decide_eq_true_eq] at hr
      exact hr.left.left
    have hn := congrArg Char.toNat (List.cons.inj h).left
    rw [CaseRun.apply, Char.toNat_ofNat] at hn
    split at hn <;> simp at hn
    omega
  case inr.inr.inr => exact (List.cons.inj h).left

-- The digits of every script are their own capitals.
theorem upperChar_of_isDecimalDigit {c : Char} (h : isDecimalDigit c) : upperChar c = [c] := by
  obtain ⟨d, hd⟩ := Option.isSome_iff_exists.mp h
  obtain ⟨start, hz, -⟩ := Option.map_eq_some_iff.mp hd
  have hc : start ≤ c.toNat ∧ c.toNat < start + 10 := by simpa using List.find?_some hz
  have hm := List.mem_of_find?_eq_some hz
  have ascii : ∀ n < 0x80, isDecimalDigit (Char.ofNat n) → (Char.ofNat n).toUpper = Char.ofNat n := by decide +kernel
  have long : zeroDigits.all fun start => longCapitals.all fun entry => entry.1 < start || start + 10 ≤ entry.1 := by
    decide +kernel
  have single : zeroDigits.all fun start => upperRuns.all fun run => run.last < start || start + 10 ≤ run.first := by
    decide +kernel
  unfold upperChar
  split
  case isTrue hlt =>
    have ha := ascii c.toNat hlt
    rw [Char.ofNat_toNat] at ha
    rw [ha h]
  case isFalse =>
    have hl : longCapitals.lookup c.toNat = none := by
      refine List.lookup_eq_none_iff.mpr fun entry he => ?_
      have ho := List.all_eq_true.mp (List.all_eq_true.mp long start hm) entry he
      simp only [Bool.or_eq_true, decide_eq_true_eq] at ho
      simp only [bne_iff_ne, ne_eq]
      omega
    have hs : upperRuns.find? (·.covers c.toNat) = none := by
      refine List.find?_eq_none.mpr fun run hr => ?_
      have ho := List.all_eq_true.mp (List.all_eq_true.mp single start hm) run hr
      simp only [Bool.or_eq_true, decide_eq_true_eq] at ho
      simp only [CaseRun.covers, Bool.and_eq_true, decide_eq_true_eq]
      omega
    rw [hl, hs]
namespace Text

variable {s word : Text} {a b : Char}

-- The first character of a text has the first letter of a word as its capital if no capital has the next letter too.
theorem upper_cons_of_prefix (h : a :: b :: word <+: upper s) (hn : ∀ c t, upperChar c ≠ a :: b :: t) :
    ∃ c s', s = c :: s' ∧ b :: word <+: upper s' := by
  cases s
  case nil => simp [upper] at h
  case cons c s =>
    refine ⟨c, s, rfl, ?_⟩
    rw [upper, List.flatMap_cons, ←upper] at h
    cases hc : upperChar c <;> rw [hc] at h
    case nil => exact absurd hc (upperChar_ne_nil c)
    case cons x t =>
      rw [List.cons_append, List.cons_prefix_cons] at h
      cases t
      case nil => exact h.right
      case cons y t =>
        have hy := h.right
        rw [List.cons_append, List.cons_prefix_cons] at hy
        exact absurd hc (h.left ▸ hy.left ▸ hn c t)

theorem upper_all_prefix (h : ['A', 'L', 'L', ' '] <+: upper s) : ∃ a b c rest, s = a :: b :: c :: ' ' :: rest := by
  have pair {a b : Char} (hp : ∀ entry ∈ longCapitals, ¬[a, b] <+: entry.2.map Char.ofNat) (c : Char) (t : Text) :
      upperChar c ≠ a :: b :: t := by
    intro hc
    have ⟨entry, he, hm⟩ := mem_longCapitals hc
    exact hp entry he (hm ▸ ⟨t, rfl⟩)
  have ⟨a, s₁, ha, h₁⟩ := upper_cons_of_prefix h (pair (by decide +kernel))
  have ⟨b, s₂, hb, h₂⟩ := upper_cons_of_prefix h₁ (pair (by decide +kernel))
  have ⟨c, s₃, hc, h₃⟩ := upper_cons_of_prefix h₂ (pair (by decide +kernel))
  cases s₃
  case nil => simp [upper] at h₃
  case cons d s =>
    rw [upper, List.flatMap_cons] at h₃
    cases hd : upperChar d <;> rw [hd] at h₃
    case nil => exact absurd hd (upperChar_ne_nil d)
    case cons x t =>
      rw [List.cons_append, List.cons_prefix_cons] at h₃
      rw [←h₃.left] at hd
      exact ⟨a, b, c, s, by rw [ha, hb, hc, eq_blank_of_upperChar hd]⟩

end Text
end Copybook
