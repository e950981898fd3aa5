import Copybook.Proofs.Text.Pieces
import Copybook.Proofs.Text.Spelling
import Copybook.Source.Clause
import Copybook.Source.Statement

/-!
Where clauses are found in a text. A clause begins with one of its keywords, so the search passes over what those do
not occur in, and it comes to the first place where the reader takes something.
-/

namespace Copybook

namespace Source

theorem beginsBlank_trail (pieces : List Text) : beginsBlank (Text.trail pieces) := by
  cases pieces <;> rfl

namespace Clause

variable {α β ι κ : Type} {s t word : Text} {c : Char}

theorem keyword?_append (hw : ∀ l ∈ word, isBlank l = false) (ht : beginsBlank t) (s : Text) :
    keyword? word (s ++ t) = (keyword? word s).map (· ++ t) := by
  induction word generalizing s
  case nil => rfl
  case cons l word hi =>
    obtain ⟨hl, hw⟩ := List.forall_mem_cons.mp hw
    cases s
    case nil =>
      cases t
      case nil => rfl
      case cons c t =>
        have hc : isBlank c := by simpa [beginsBlank] using ht
        simp [keyword?, sameLetter_of_isBlank hl hc]
    case cons c s =>
      rw [List.cons_append, keyword?, keyword?, hi hw]
      split <;> rfl

theorem keyword?_spells (h : Text.Spells word s) (t : Text) : keyword? word (s ++ t) = some t := by
  induction word generalizing s
  case nil =>
    rw [List.map_eq_nil_iff.mp h]
    rfl
  case cons l word hi =>
    cases s
    case nil => cases h
    case cons c s =>
      obtain ⟨hc, hs⟩ := List.cons.inj h
      have hl : sameLetter l c := by simp [sameLetter, hc]
      rw [List.cons_append, keyword?, if_pos hl, hi hs]

-- What is skipped is the word.
theorem spells_of_keyword? {r : Text} (hs : s.IsAscii) (h : keyword? word s = some r) :
    ∃ t, s = t ++ r ∧ Text.Spells word t := by
  induction word generalizing s
  case nil => exact ⟨[], (Option.some.inj h), rfl⟩
  case cons letter word hi =>
    cases s
    case nil => contradiction
    case cons c s =>
      rw [keyword?] at h
      split at h
      case isFalse => contradiction
      case isTrue hc =>
        obtain ⟨hl, hs⟩ := List.forall_mem_cons.mp hs
        obtain ⟨t, rfl, ht⟩ := hi hs h
        exact ⟨c :: t, rfl, List.cons_eq_cons.mpr ⟨toLower_of_sameLetter hl hc, ht⟩⟩

-- Whether a word is there does not depend on the case of the letters.
theorem keyword?_toLower (word s : Text) :
    keyword? word (s.map Char.toLower) = (keyword? word s).map (List.map Char.toLower) := by
  induction word generalizing s
  case nil => rfl
  case cons l word hi =>
    cases s
    case nil => rfl
    case cons c s =>
      rw [List.map_cons, keyword?, keyword?, sameLetter_toLower, hi]
      split <;> rfl

-- The word occurs in the text, in either case.
def Mentions (word s : Text) : Prop :=
  ∃ t ∈ s.tails, (keyword? word t).isSome

instance : Decidable (Mentions word s) :=
  inferInstanceAs <| Decidable (∃ t ∈ s.tails, _)

theorem mentions_cons : Mentions word (c :: s) ↔ (keyword? word (c :: s)).isSome ∨ Mentions word s := by
  simp [Mentions]

theorem keyword?_of_suffix (hm : ¬Mentions word s) (ht : t <:+ s) : keyword? word t = none :=
  Option.not_isSome_iff_eq_none.mp fun h => hm ⟨t, (List.mem_tails _ _).mpr ht, h⟩

theorem mentions_toLower : Mentions word (s.map Char.toLower) ↔ Mentions word s := by
  unfold Mentions
  rw [List.map_tails]
  simp [keyword?_toLower]

theorem mentions_spells (h : Text.Spells t s) : Mentions word s ↔ Mentions word t := by
  rw [←mentions_toLower, h, mentions_toLower]

-- A word is not in a text that lacks one of its letters.
theorem not_mentions_of_lacks {letter : Char} (hl : letter ∈ word) (h : ∀ c ∈ s, sameLetter letter c = false) :
    ¬Mentions word s := by
  have lacks {s : Text} (h : ∀ c ∈ s, sameLetter letter c = false) : keyword? word s = none := by
    induction word generalizing s
    case nil => contradiction
    case cons l word hi =>
      cases s
      case nil => rfl
      case cons c s =>
        obtain ⟨hc, hs⟩ := List.forall_mem_cons.mp h
        rw [keyword?]
        rcases List.mem_cons.mp hl with rfl | hl
        · rw [hc, if_neg Bool.false_ne_true]
        · rw [hi hl hs, ite_self]
  rintro ⟨t, ht, hk⟩
  rw [lacks fun c hc => h c (((List.mem_tails _ _).mp ht).subset hc)] at hk
  contradiction

theorem not_mentions_append (hw : ∀ l ∈ word, isBlank l = false) (ht : beginsBlank t) (h : ¬Mentions word s)
    (hn : ¬Mentions word t) : ¬Mentions word (s ++ t) := by
  induction s
  case nil => exact hn
  case cons c s hi =>
    rw [mentions_cons, not_or] at h
    rw [List.cons_append, mentions_cons, not_or]
    refine ⟨?_, hi h.right⟩
    rw [←List.cons_append, keyword?_append hw ht]
    simpa using h.left

theorem keyword?_space (hn : word ≠ []) (hw : ∀ l ∈ word, isBlank l = false) (s : Text) :
    keyword? word (' ' :: s) = none := by
  obtain ⟨l, word, rfl⟩ := List.exists_cons_of_ne_nil hn
  rw [keyword?, sameLetter_of_isBlank (hw l List.mem_cons_self) (by decide)]
  rfl

theorem not_mentions_nil (hn : word ≠ []) : ¬Mentions word [] := by
  obtain ⟨l, word, rfl⟩ := List.exists_cons_of_ne_nil hn
  simp [Mentions, keyword?]

theorem not_mentions_trail (hn : word ≠ []) (hw : ∀ l ∈ word, isBlank l = false) {pieces : List Text}
    (h : ∀ s ∈ pieces, ¬Mentions word s) : ¬Mentions word (Text.trail pieces) := by
  induction pieces
  case nil => exact not_mentions_nil hn
  case cons s pieces hi =>
    obtain ⟨hs, h⟩ := List.forall_mem_cons.mp h
    rw [Text.trail_cons, mentions_cons, not_or, keyword?_space hn hw]
    exact ⟨Bool.false_ne_true, not_mentions_append hw (beginsBlank_trail pieces) hs (hi h)⟩

-- A word is in no text whose pieces it is not in.
theorem not_mentions_join (hn : word ≠ []) (hw : ∀ l ∈ word, isBlank l = false) {pieces : List Text}
    (h : ∀ s ∈ pieces, ¬Mentions word s) : ¬Mentions word (Text.join [' '] pieces) := by
  cases pieces
  case nil => exact not_mentions_trail hn hw h
  case cons s pieces =>
    obtain ⟨hs, h⟩ := List.forall_mem_cons.mp h
    rw [Text.join_cons]
    exact not_mentions_append hw (beginsBlank_trail pieces) hs (not_mentions_trail hn hw h)

-- The last character of a text, or what is before it.
def latest (before : Option Char) (s : Text) : Option Char :=
  s.foldl (fun _ c => some c) before

theorem latest_cons (before : Option Char) (c : Char) (s : Text) : latest before (c :: s) = latest (some c) s :=
  rfl

theorem latest_append (before : Option Char) (s t : Text) : latest before (s ++ t) = latest (latest before s) t :=
  List.foldl_append

-- A reader that takes nothing where none of the words begins.
structure HeadedBy (read : Option Char → Text → Option β) (words : List Text) : Prop where
  solid : words.all fun w => !w.isEmpty && w.all (!isBlank ·)
  headed : ∀ before s, (∀ w ∈ words, keyword? w s = none) → read before s = none

theorem HeadedBy.word_solid {read : Option Char → Text → Option β} {words : List Text} (h : HeadedBy read words)
    (hw : word ∈ words) : word ≠ [] ∧ ∀ l ∈ word, isBlank l = false := by
  simpa using List.all_eq_true.mp h.solid word hw

-- Nothing that `read` takes begins in `s` if `t` follows.
def PassesTo (read : Option Char → Text → Option (α × Text)) (s t : Text) : Prop :=
  ∀ before, search read before (s ++ t) = (search read (latest before s) t).map fun found =>
    { found with before := s ++ found.before }

-- Nothing that `read` takes begins in the text, whatever follows after a blank.
def Passes (read : Option Char → Text → Option (α × Text)) (s : Text) : Prop :=
  ∀ t, beginsBlank t → PassesTo read s t

section Search

variable {read : Option Char → Text → Option (α × Text)} {words : List Text} {item : α} {pieces rest : List Text}

-- What is found is what the reader takes at some place.
theorem read_of_search {before : Option Char} {found : Found α} (h : search read before s = some found) :
    ∃ v, v <:+ s ∧ ∃ b, read b v = some (found.item, found.after) := by
  induction s generalizing before found
  case nil =>
    obtain ⟨⟨item, after⟩, hr, rfl⟩ := Option.map_eq_some_iff.mp h
    exact ⟨[], List.suffix_rfl, before, hr⟩
  case cons c s hi =>
    rw [search] at h
    split at h
    case h_1 item after hr =>
      cases h
      exact ⟨_, List.suffix_rfl, before, hr⟩
    case h_2 =>
      obtain ⟨found, hf, rfl⟩ := Option.map_eq_some_iff.mp h
      obtain ⟨v, hv, b, hr⟩ := hi hf
      exact ⟨v, hv.trans (List.suffix_cons c s), b, hr⟩

theorem passesTo_nil (t : Text) : PassesTo read [] t := by
  intro before
  simp [latest]

theorem passesTo_append {u : Text} (hs : PassesTo read s (t ++ u)) (ht : PassesTo read t u) :
    PassesTo read (s ++ t) u := by
  intro before
  rw [List.append_assoc, hs, ht, latest_append]
  simp [Function.comp_def]

theorem passesTo_cons (h : ∀ before, read before (c :: (s ++ t)) = none) (hs : PassesTo read s t) :
    PassesTo read (c :: s) t := by
  intro before
  rw [List.cons_append, search, h, hs, latest_cons]
  simp [Function.comp_def]

theorem passesTo_of_suffix (h : ∀ u, u <:+ s → u ≠ [] → ∀ before, read before (u ++ t) = none) : PassesTo read s t := by
  induction s
  case nil => exact passesTo_nil t
  case cons c s hi =>
    refine passesTo_cons (h _ List.suffix_rfl (List.cons_ne_nil c s)) (hi fun u hu => h u (hu.trans (List.suffix_cons c s)))

theorem HeadedBy.nil (h : HeadedBy read words) (before : Option Char) : read before [] = none :=
  h.headed before [] fun w hw => by
    obtain ⟨l, u, hu⟩ := List.exists_cons_of_ne_nil (h.word_solid hw).left
    rw [hu]
    rfl

theorem HeadedBy.passes (h : HeadedBy read words) (hs : ∀ w ∈ words, ¬Mentions w s) : Passes read s := by
  intro t ht
  induction s
  case nil => exact passesTo_nil t
  case cons c s hi =>
    refine passesTo_cons (fun before => ?_) (hi fun w hw hm => hs w hw (mentions_cons.mpr (.inr hm)))
    refine h.headed before _ fun w hw => ?_
    have hn := fun hm => hs w hw (mentions_cons.mpr (.inl hm))
    rw [←List.cons_append, keyword?_append (h.word_solid hw).right ht, Option.not_isSome_iff_eq_none.mp hn]
    rfl

theorem HeadedBy.passes_space (h : HeadedBy read words) (t : Text) : PassesTo read [' '] t := by
  refine passesTo_cons (fun before => h.headed before _ fun w hw => ?_) (passesTo_nil t)
  have ⟨hn, hb⟩ := h.word_solid hw
  exact keyword?_space hn hb t

-- The search passes over all pieces of a text if it passes over each.
theorem HeadedBy.passes_lead (h : HeadedBy read words) (hp : ∀ s ∈ pieces, Passes read s) (t : Text) :
    PassesTo read (Text.lead pieces) t := by
  induction pieces
  case nil => exact passesTo_nil t
  case cons s pieces hi =>
    obtain ⟨hs, hp⟩ := List.forall_mem_cons.mp hp
    exact passesTo_append (passesTo_append (hs _ rfl) (h.passes_space _)) (hi hp)

theorem beginsBlank_trail_append (pieces : List Text) {t : Text} (ht : beginsBlank t) :
    beginsBlank (Text.trail pieces ++ t) := by
  cases pieces
  case nil => exact ht
  case cons => rfl

theorem HeadedBy.passes_trail (h : HeadedBy read words) (hp : ∀ s ∈ pieces, Passes read s) :
    Passes read (Text.trail pieces) := by
  intro t ht
  induction pieces
  case nil => exact passesTo_nil t
  case cons s pieces hi =>
    obtain ⟨hs, hp⟩ := List.forall_mem_cons.mp hp
    refine passesTo_append (s := [' ']) (h.passes_space _) (passesTo_append (hs _ ?_) (hi hp))
    exact beginsBlank_trail_append pieces ht

-- A piece stands at the start or after a space.
theorem latest_lead (before : Option Char) (pieces : List Text) :
    latest before (Text.lead pieces) ∈ [before, some ' '] := by
  induction pieces using List.reverseRecOn
  case nil => exact List.mem_cons_self
  case append_singleton pieces s =>
    rw [Text.lead, List.flatMap_append, List.flatMap_singleton, ←List.append_assoc, latest_append]
    exact List.mem_cons_of_mem _ List.mem_cons_self

theorem wordBegins_of_mem {before : Option Char} (h : before ∈ [none, some ' ']) : wordBegins before := by
  simp only [List.mem_cons, List.not_mem_nil, or_false] at h
  rcases h with rfl | rfl <;> decide

-- The search comes to the first piece that is not passed over.
theorem HeadedBy.search_join (h : HeadedBy read words) (hp : ∀ s ∈ pieces, Passes read s) (s : Text) (rest : List Text) :
    ∃ before ∈ [none, some ' '], search read none (Text.join [' '] (pieces ++ s :: rest)) =
      (search read before (s ++ Text.trail rest)).map fun found =>
        { found with before := Text.lead pieces ++ found.before } := by
  refine ⟨_, latest_lead none pieces, ?_⟩
  rw [Text.join_append_cons, h.passes_lead hp]

theorem HeadedBy.search_nil (h : HeadedBy read words) (before : Option Char) : search read before [] = none := by
  rw [search, h.nil]
  rfl

theorem HeadedBy.search_concat_eq_none (h : HeadedBy read words) (hp : ∀ s ∈ pieces, Passes read s)
    (hs : ∀ before, search read before s = none) : search read none (Text.join [' '] (pieces ++ [s])) = none := by
  rw [Text.join_append_cons, h.passes_lead hp _ none, Text.trail, List.flatMap_nil, List.append_nil, hs]
  rfl

theorem HeadedBy.search_of_passes (h : HeadedBy read words) (hs : Passes read s) (before : Option Char) :
    search read before s = none := by
  have hn := hs [] rfl before
  rw [List.append_nil, h.search_nil] at hn
  exact hn

theorem HeadedBy.search_eq_none (h : HeadedBy read words) (hp : ∀ s ∈ pieces, Passes read s) :
    search read none (Text.join [' '] pieces) = none := by
  cases pieces using List.reverseRecOn
  case nil => exact h.search_nil none
  case append_singleton pieces s =>
    obtain ⟨hp, hs⟩ := List.forall_mem_append.mp hp
    exact h.search_concat_eq_none hp (h.search_of_passes (List.forall_mem_singleton.mp hs))

end Search

end Clause
end Source
end Copybook
