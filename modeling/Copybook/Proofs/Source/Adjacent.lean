import Copybook.Proofs.Source.Key
import Copybook.Proofs.Source.Reader

/-!
A clause that is a keyword and the word after it. Where it is found in a text can be said of the words of the text: the
keyword is a word or the end of one, and the word after it is one that the reader takes.
-/

namespace Copybook

namespace Text

variable {s t w : Text} {c : Char}

open Source (IsWord beginsBlank)

theorem words_cons_blank (hc : isBlank c) (s : Text) : words (c :: s) = words s := by
  simp [words, wordsFrom, hc]

theorem words_append (hw : IsWord w) (ht : beginsBlank t) : words (w ++ t) = w :: words t := by
  have hn : w.reverse.isEmpty = false := by simp [hw.nonempty]
  rw [words, wordsFrom_append hw.solid, List.append_nil]
  cases t
  case nil => simp [wordsFrom, words, hn]
  case cons c t =>
    have hc : isBlank c := by simpa [beginsBlank] using ht
    simp [wordsFrom, words, hn, hc]

theorem words_dropWhile (s : Text) : words (s.dropWhile isBlank) = words s := by
  induction s
  case nil => rfl
  case cons c s hi =>
    rw [List.dropWhile_cons]
    split
    case isTrue hc => rw [hi, words_cons_blank hc]
    case isFalse => rfl

-- The word at the front of a text, and what comes after it.
theorem exists_word (hc : isBlank c = false) (s : Text) : ∃ w t, c :: s = w ++ t ∧ IsWord w ∧ beginsBlank t := by
  refine ⟨(c :: s).takeWhile (!isBlank ·), (c :: s).dropWhile (!isBlank ·), List.takeWhile_append_dropWhile.symm,
    ⟨by simp [hc], fun d hd => by simpa using List.mem_takeWhile_imp hd⟩, ?_⟩
  cases h : (c :: s).dropWhile (!isBlank ·)
  case nil => rfl
  case cons d t =>
    have hd := List.dropWhile_get_zero_not (!isBlank ·) (c :: s) (by simp [h])
    simpa [beginsBlank, h] using hd

-- A text is made up of blanks and of words that blanks or nothing come after.
theorem words_induction {P : Text → Prop} (nil : P []) (blank : ∀ c s, isBlank c → P s → P (c :: s))
    (word : ∀ w t, IsWord w → beginsBlank t → P t → P (w ++ t)) (s : Text) : P s := by
  induction hn : s.length using Nat.strongRecOn generalizing s
  case ind n hi =>
    cases s
    case nil => exact nil
    case cons c s =>
      cases hc : isBlank c
      case true => exact blank c s hc (hi _ (by simp [←hn]) s rfl)
      case false =>
        obtain ⟨w, t, he, hw, ht⟩ := exists_word hc s
        have hl := List.length_pos_of_ne_nil hw.nonempty
        rw [he, List.length_append] at hn
        exact he ▸ word w t hw ht (hi _ (by omega) t rfl)

end Text

namespace Source.Clause

open Text (words)

variable {α : Type} {keyword s t w : Text} {before : Option Char}

-- A run of characters ends in the keyword, which begins where a word can.
def Closes (before : Option Char) (keyword w : Text) : Prop :=
  ∃ a u, w = a ++ u ∧ wordBegins (latest before a) ∧ keyword? keyword u = some []

theorem closes_iff : Closes before keyword w ↔ ∃ n ∈ List.range (w.length + 1),
    wordBegins (latest before (w.take n)) ∧ keyword? keyword (w.drop n) = some [] :=
  Text.exists_cut_iff

instance : Decidable (Closes before keyword w) :=
  decidable_of_iff' _ closes_iff

theorem keyword?_nil (hn : keyword ≠ []) : keyword? keyword [] = none := by
  obtain ⟨l, kw, rfl⟩ := List.exists_cons_of_ne_nil hn
  rfl

theorem not_closes_nil (hn : keyword ≠ []) : ¬Closes before keyword [] := by
  rintro ⟨a, u, he, -, hu⟩
  rw [(List.nil_eq_append_iff.mp he).right, keyword?_nil hn] at hu
  contradiction

theorem closes_cons {c : Char} : Closes before keyword (c :: w) ↔
    (wordBegins before ∧ keyword? keyword (c :: w) = some []) ∨ Closes (some c) keyword w :=
  Text.exists_cut_cons_iff

theorem closes_of_wordBegins (hn : w ≠ []) (hb : wordBegins before) :
    Closes before keyword w ↔ Closes none keyword w := by
  obtain ⟨c, w, rfl⟩ := List.exists_cons_of_ne_nil hn
  simp [closes_cons, hb, show wordBegins none from rfl]

-- What is found is what is taken here, or what is found later.
theorem item_search_cons {read : Option Char → Text → Option (α × Text)} (c : Char) (s : Text) :
    (search read before (c :: s)).map (·.item) =
      ((read before (c :: s)).map Prod.fst <|> (search read (some c) s).map (·.item)) := by
  rw [search]
  cases read before (c :: s)
  case none => exact Option.map_map ..
  case some => rfl

-- What the word after the first keyword is taken for, among the words that are taken for anything there.
def firstAfter (keyword : Text) (select : Text → Option α) : List Text → Option α
  | [] => none
  | w :: ws => (if Closes none keyword w then ws.head?.bind select else none) <|> firstAfter keyword select ws

-- A reader of a keyword and the word after it, what it takes of that word being told by the word alone.
structure Pairs (read : Option Char → Text → Option (α × Text)) (keyword : Text) (next : Text → Option (α × Text))
    (select : Text → Option α) : Prop where
  nonempty : keyword ≠ []
  solid : ∀ l ∈ keyword, isBlank l = false
  reads : ∀ before s, read before s = if wordBegins before then (phrase? keyword s).bind next else none
  alone : next [] = none
  takes : ∀ w t, IsWord w → beginsBlank t → (next (w ++ t)).map Prod.fst = select w

namespace Pairs

variable {read : Option Char → Text → Option (α × Text)} {next : Text → Option (α × Text)} {select : Text → Option α}
  (h : Pairs read keyword next select)

include h

theorem read_of_keyword? (before : Option Char) (hk : keyword? keyword s = none) : read before s = none := by
  rw [h.reads, phrase?, hk]
  exact ite_self _

theorem read_nil (before : Option Char) : read before [] = none :=
  h.read_of_keyword? before (keyword?_nil h.nonempty)

theorem read_blank (before : Option Char) {c : Char} (hc : isBlank c) (s : Text) : read before (c :: s) = none := by
  refine h.read_of_keyword? before ?_
  obtain ⟨l, kw, rfl⟩ := List.exists_cons_of_ne_nil h.nonempty
  rw [keyword?, sameLetter_of_isBlank (h.solid l List.mem_cons_self) hc]
  rfl

theorem next_eq (hs : s = [] ∨ Begun s) : (next s).map Prod.fst = (words s).head?.bind select := by
  rcases hs with rfl | ⟨c, u, rfl, hc⟩
  case inl =>
    rw [h.alone]
    rfl
  case inr =>
    obtain ⟨w, t, he, hw, ht⟩ := Text.exists_word hc u
    rw [he, h.takes w t hw ht, Text.words_append hw ht]
    rfl

-- Where the keyword stands with nothing of a word after it, the word after that is looked at.
theorem read_keyword (hb : wordBegins before) (hw : ∀ c ∈ w, isBlank c = false) (ht : beginsBlank t) :
    (read before (w ++ t)).map Prod.fst =
      if keyword? keyword w = some [] then (words t).head?.bind select else none := by
  rw [h.reads, if_pos hb, phrase?, keyword?_append h.solid ht]
  cases hk : keyword? keyword w
  case none => rfl
  case some r =>
    rw [Option.map_some, Option.bind_eq_bind, Option.bind_some]
    by_cases hr : r = []
    case neg =>
      rw [blanks?_eq_none (fun c hc => hw c ((keyword?_suffix hk).subset hc)) hr, if_neg (by simpa using hr)]
      rfl
    case pos =>
      subst hr
      rw [List.nil_append, if_pos rfl, ←Text.words_dropWhile t]
      have hs : t.dropWhile isBlank = [] ∨ Begun (t.dropWhile isBlank) := by
        cases hd : t.dropWhile isBlank
        case nil => exact .inl rfl
        case cons c u =>
          have hc := List.dropWhile_get_zero_not isBlank t (by simp [hd])
          exact .inr ⟨c, u, rfl, by simpa [hd] using hc⟩
      cases t
      case nil => rfl
      case cons c t =>
        have hc : isBlank c := by simpa [beginsBlank] using ht
        have hblanks : blanks? (c :: t) = some ((c :: t).dropWhile isBlank) := by simp [blanks?, hc]
        rw [hblanks, Option.bind_some, h.next_eq hs]

-- The search passes over a word, or it ends there with what the word after it is taken for.
theorem search_append (hw : ∀ c ∈ w, isBlank c = false) (ht : beginsBlank t) :
    (search read before (w ++ t)).map (·.item) =
      ((if Closes before keyword w then (words t).head?.bind select else none) <|>
        (search read (latest before w) t).map (·.item)) := by
  induction w generalizing before
  case nil =>
    rw [if_neg (not_closes_nil h.nonempty)]
    exact Option.none_or.symm
  case cons c w hi =>
    obtain ⟨hc, hws⟩ := List.forall_mem_cons.mp hw
    rw [List.cons_append, item_search_cons, hi hws, latest_cons, ←List.cons_append]
    by_cases hb : wordBegins before
    case neg =>
      rw [h.reads, if_neg hb]
      simp [closes_cons, hb]
    case pos =>
      rw [h.read_keyword hb hw ht]
      by_cases hk : keyword? keyword (c :: w) = some []
      case neg => simp [closes_cons, hk]
      case pos =>
        rw [if_pos hk, if_pos (closes_cons.mpr (.inl ⟨hb, hk⟩))]
        split <;> cases (words t).head?.bind select <;> rfl

-- What is found in a text is what is found among its words.
theorem search_eq (hb : beginsBlank s ∨ wordBegins before) :
    (search read before s).map (·.item) = firstAfter keyword select (words s) := by
  induction s using Text.words_induction generalizing before
  case nil =>
    rw [search, h.read_nil]
    rfl
  case blank c s hc hi =>
    have hc' : wordBegins (some c) := by simp [wordBegins, isWordChar_of_isBlank hc]
    rw [item_search_cons, h.read_blank before hc, Text.words_cons_blank hc, ←hi (.inr hc')]
    rfl
  case word w t hw ht hi =>
    have hb : wordBegins before := by
      refine hb.resolve_left fun hb => ?_
      obtain ⟨c, u, rfl, hc⟩ := hw.begun
      simp [beginsBlank, hc] at hb
    rw [h.search_append hw.solid ht, hi (.inl ht), Text.words_append hw ht, firstAfter]
    simp only [closes_of_wordBegins hw.nonempty hb]

end Pairs

end Source.Clause
end Copybook
