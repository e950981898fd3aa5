import Copybook.Proofs.Source.Taking

/-!
The phrases that name an index or a key of a table, among the clauses. They are removed after the literal and the count
have been read; the name may end in a word that those readers look for.
-/

namespace Copybook
namespace Source

variable {s t word : Text} {c : Char} {before : Option Char}

open Clause

namespace Clause

-- Only a keyword at the end of a run of characters without blanks has blanks after it.
theorem phrase?_word (hw : ∀ l ∈ word, isBlank l = false) (hs : ∀ c ∈ s, isBlank c = false) (ht : beginsBlank t) :
    phrase? word (s ++ t) = if keyword? word s = some [] then blanks? t else none := by
  split
  case isTrue h =>
    rw [phrase?, keyword?_append hw ht, h]
    rfl
  case isFalse h => exact phrase?_eq_none hw hs h ht

theorem passesTo_dependingOn? (hs : ∀ c ∈ s, isBlank c = false) (ht : beginsBlank t)
    (hn : keyword? "ON".toList (t.dropWhile isBlank) = none) : PassesTo dependingOn? s t := by
  refine passesTo_of_suffix fun u hu _ before => ?_
  have hon : (phrase? "DEPENDING".toList (u ++ t)).bind (keyword? "ON".toList) = none := by
    rw [phrase?_word (not_isBlank_of_all rfl) (fun c hc => hs c (hu.subset hc)) ht]
    split
    · rw [blanks?]
      split
      · exact hn
      · rfl
    · rfl
  rw [dependingOn?]
  cases wordBegins before
  case false => rfl
  case true =>
    change (phrase? "DEPENDING".toList (u ++ t)).bind (fun r => (keyword? "ON".toList r).bind _) = none
    rw [←Option.bind_assoc, hon]
    rfl

theorem keyword?_append_word (a b s : Text) : keyword? (a ++ b) s = (keyword? a s).bind (keyword? b) := by
  induction a generalizing s
  case nil => rfl
  case cons l a hi =>
    cases s
    case nil => rfl
    case cons c s =>
      rw [List.cons_append, keyword?, keyword?, hi]
      split <;> rfl

-- A run of ASCII characters is a word if it spells that word.
theorem keyword?_eq_nil_iff (hs : ∀ c ∈ s, c.toNat < 0x80) : keyword? word s = some [] ↔ Text.Spells word s := by
  induction word generalizing s
  case nil =>
    rw [Text.Spells, List.map_nil, List.map_eq_nil_iff]
    exact ⟨fun h => Option.some.inj h, congrArg some⟩
  case cons l word hi =>
    cases s
    case nil => exact iff_of_false (Option.some_ne_none _).symm (List.cons_ne_nil _ _).symm
    case cons c s =>
      obtain ⟨hc, hs⟩ := List.forall_mem_cons.mp hs
      have hl : sameLetter l c ↔ c.toLower = l.toLower := by
        rw [sameLetter, beq_false_of_ne (by omega : c.toNat ≠ 0x17f), beq_false_of_ne (by omega : c.toNat ≠ 0x131),
          beq_false_of_ne (by omega : c.toNat ≠ 0x130), beq_false_of_ne (by omega : c.toNat ≠ 0x212a)]
        split <;> simp only [Bool.or_false, beq_iff_eq]
      rw [keyword?, Text.Spells, List.map_cons, List.map_cons, List.cons_eq_cons, ←hl]
      split
      case isTrue h => exact (hi hs).trans ⟨fun hs => ⟨h, hs⟩, And.right⟩
      case isFalse h => exact iff_of_false (Option.some_ne_none _).symm fun hn => h hn.left

end Clause

theorem toNat_of_isNameChar (h : isNameChar c) : c.toNat < 0x80 := by
  simp only [isNameChar, Bool.or_eq_true, beq_iff_eq] at h
  rcases h with (h | rfl) | rfl
  · exact (toNat_of_isAlphanum h).right.trans (by decide)
  · decide
  · decide

namespace Clause

-- What `VALUE` is followed by in a text that begins with blanks.
def literalAfter? (t : Text) : Option (Text × Text) :=
  (blanks? t).bind fun s => (phrase? "IS".toList s <|> phrase? "ARE".toList s).bind literal? <|> literal? s

-- The keyword of literals is `VALUE` or `VALUES`: what is left of it after `VALUE` and an `S` must be nothing.
theorem oneOf_value_iff (hs : ∀ c ∈ s, c.toNat < 0x80) : OneOf ["VALUE".toList, "VALUES".toList] s ↔
    (keyword? "VALUE".toList s).map (fun r => (keyword? "S".toList r).getD r) = some [] := by
  have hv : OneOf ["VALUE".toList, "VALUES".toList] s ↔
      keyword? "VALUE".toList s = some [] ∨ (keyword? "VALUE".toList s).bind (keyword? "S".toList) = some [] := by
    rw [←keyword?_append_word, keyword?_eq_nil_iff hs, keyword?_eq_nil_iff hs]
    simp only [OneOf, List.exists_mem_cons_iff, List.not_mem_nil, false_and, exists_false, or_false]
    rfl
  rw [hv]
  cases keyword? "VALUE".toList s
  case none => simp
  case some r =>
    cases hr : keyword? "S".toList r
    case none =>
      rw [Option.bind_some, Option.map_some, hr, Option.getD_none]
      simp
    case some q =>
      have hn : r ≠ [] := by
        rintro rfl
        contradiction
      rw [Option.bind_some, Option.map_some, hr, Option.getD_some]
      simp [hn]

-- In a run of characters of names, a literal is read after nothing but `VALUE` or `VALUES`.
theorem value?_name (hs : ∀ c ∈ s, isNameChar c) (hb : wordBegins before) (ht : beginsBlank t) :
    value? before (s ++ t) = if OneOf ["VALUE".toList, "VALUES".toList] s then literalAfter? t else none := by
  have hsolid : ∀ c ∈ s, isBlank c = false := fun c hc => by
    refine Bool.eq_false_iff.mpr fun hb => ?_
    have hn := hs c hc
    rw [isNameChar_of_isBlank hb] at hn
    contradiction
  rw [value?_of_wordBegins hb, keyword?_append (not_isBlank_of_all rfl) ht]
  simp only [oneOf_value_iff fun c hc => toNat_of_isNameChar (hs c hc)]
  cases h : keyword? "VALUE".toList s
  case none => rfl
  case some r =>
    have hq : (keyword? "S".toList (r ++ t)).getD (r ++ t) = (keyword? "S".toList r).getD r ++ t := by
      rw [keyword?_append (not_isBlank_of_all rfl) ht]
      cases keyword? "S".toList r <;> rfl
    have hsuffix : (keyword? "S".toList r).getD r <:+ s := by
      cases hr : keyword? "S".toList r
      case none => exact keyword?_suffix h
      case some q => exact (keyword?_suffix hr).trans (keyword?_suffix h)
    rw [Option.map_some, Option.bind_some, hq, Option.map_some]
    split
    case isTrue he =>
      rw [Option.some.inj he]
      rfl
    case isFalse he =>
      rw [blanks?_eq_none (fun c hc => hsolid c (hsuffix.subset hc)) fun hn => he (congrArg some hn)]
      rfl

-- A run of characters ends in one of some words, which begins where a word can.
def EndsIn (before : Option Char) (words : List Text) (s : Text) : Prop :=
  ∃ a u, s = a ++ u ∧ wordBegins (latest before a) ∧ OneOf words u

theorem endsIn_iff {words : List Text} : EndsIn before words s ↔
    ∃ n ∈ List.range (s.length + 1), wordBegins (latest before (s.take n)) ∧ OneOf words (s.drop n) :=
  Text.exists_cut_iff

instance {words : List Text} : Decidable (EndsIn before words s) :=
  decidable_of_iff' _ endsIn_iff

theorem endsIn_cons {words : List Text} :
    EndsIn before words (c :: s) ↔ (wordBegins before ∧ OneOf words (c :: s)) ∨ EndsIn (some c) words s :=
  Text.exists_cut_cons_iff

-- What stands before the run matters only for a word that the whole run is.
theorem EndsIn.mono {before' : Option Char} {words : List Text} (h : EndsIn before words s)
    (hb : wordBegins before → wordBegins before') : EndsIn before' words s := by
  obtain ⟨_ | ⟨d, a⟩, u, he, ha, hu⟩ := h
  case nil => exact ⟨[], u, he, hb ha, hu⟩
  case cons => exact ⟨d :: a, u, he, ha, hu⟩

theorem value?_of_not_wordBegins (h : wordBegins before = false) (s : Text) : value? before s = none := by
  rw [value?, h]
  rfl

theorem not_oneOf_nil {words : List Text} (h : [] ∉ words) : ¬OneOf words [] :=
  fun ⟨_, hw, hs⟩ => h (List.map_eq_nil_iff.mp hs.symm ▸ hw)

-- The literal after a name that ends in the keyword is found, and otherwise the search goes on after the name.
theorem search_value?_name (hs : ∀ c ∈ s, isNameChar c) (ht : beginsBlank t) {item rest : Text}
    (hl : literalAfter? t = some (item, rest)) (h : EndsIn before ["VALUE".toList, "VALUES".toList] s) :
    ∃ found, search value? before (s ++ t) = some found ∧ found.item = item := by
  induction s generalizing before
  case nil =>
    obtain ⟨a, u, he, -, hu⟩ := h
    rw [(List.nil_eq_append_iff.mp he).right] at hu
    exact absurd hu (not_oneOf_nil (by decide))
  case cons c s hi =>
    obtain ⟨hc, hss⟩ := List.forall_mem_cons.mp hs
    by_cases hhere : wordBegins before ∧ OneOf ["VALUE".toList, "VALUES".toList] (c :: s)
    case pos =>
      have hv := value?_name hs hhere.left ht
      rw [if_pos hhere.right, hl] at hv
      exact ⟨_, search_of_read hv, rfl⟩
    case neg =>
      have hv : value? before (c :: s ++ t) = none := by
        cases hb : wordBegins before
        case false => exact value?_of_not_wordBegins hb _
        case true => rw [value?_name hs hb ht, if_neg fun hn => hhere ⟨hb, hn⟩]
      obtain ⟨found, hf, he⟩ := hi hss ((endsIn_cons.mp h).resolve_left hhere)
      rw [List.cons_append, search, ←List.cons_append, hv, hf]
      exact ⟨_, rfl, he⟩

-- Nothing is found in a name that does not end in the keyword, or that nothing follows.
theorem passesTo_value? (hs : ∀ c ∈ s, isNameChar c) (ht : beginsBlank t)
    (hn : literalAfter? t = none ∨ ¬EndsIn none ["VALUE".toList, "VALUES".toList] s) : PassesTo value? s t := by
  intro before
  suffices h : literalAfter? t = none ∨ ¬EndsIn before ["VALUE".toList, "VALUES".toList] s by
    clear hn
    induction s generalizing before
    case nil => exact passesTo_nil t before
    case cons c s hi =>
      obtain ⟨hc, hss⟩ := List.forall_mem_cons.mp hs
      have hlater : literalAfter? t = none ∨ ¬EndsIn (some c) ["VALUE".toList, "VALUES".toList] s :=
        h.imp_right fun h he => h (endsIn_cons.mpr (.inr he))
      have hv : value? before (c :: s ++ t) = none := by
        cases hb : wordBegins before
        case false => exact value?_of_not_wordBegins hb _
        case true =>
          rw [value?_name hs hb ht]
          rcases h with h | h
          · rw [h, ite_self]
          · rw [if_neg fun ho => h (endsIn_cons.mpr (.inl ⟨hb, ho⟩))]
      rw [List.cons_append, search, ←List.cons_append, hv, hi hss (some c) hlater, latest_cons]
      simp [Function.comp_def]
  exact hn.imp_right fun hn he => hn (he.mono fun _ => rfl)

section Removal

variable {read : Option Char → Text → Option Text} {heads pieces : List Text}

theorem removeFrom_of_none (h : read before (c :: s) = none) :
    removeFrom read before 0 (c :: s) = c :: removeFrom read (some c) 0 s := by
  rw [removeFrom, if_neg (Nat.lt_irrefl 0), h]

-- What the words do not occur in is left as it is.
theorem removeFrom_append (h : HeadedBy read heads) (hs : ∀ w ∈ heads, ¬Mentions w s) (ht : beginsBlank t)
    (before : Option Char) : removeFrom read before 0 (s ++ t) = s ++ removeFrom read (latest before s) 0 t := by
  induction s generalizing before
  case nil => rfl
  case cons c s hi =>
    have hn : read before (c :: (s ++ t)) = none := by
      refine h.headed before _ fun w hw => ?_
      rw [←List.cons_append, keyword?_append (h.word_solid hw).right ht, keyword?_of_suffix (hs w hw) List.suffix_rfl]
      rfl
    rw [List.cons_append, removeFrom_of_none hn, hi fun w hw hm => hs w hw (mentions_cons.mpr (.inr hm)), latest_cons]
    rfl

theorem removeFrom_lead (h : HeadedBy read heads) (hp : ∀ s ∈ pieces, ∀ w ∈ heads, ¬Mentions w s)
    (before : Option Char) (t : Text) : removeFrom read before 0 (Text.lead pieces ++ t) =
      Text.lead pieces ++ removeFrom read (latest before (Text.lead pieces)) 0 t := by
  induction pieces generalizing before
  case nil => rfl
  case cons s pieces hi =>
    obtain ⟨hs, hp⟩ := List.forall_mem_cons.mp hp
    have hspace (before : Option Char) (u : Text) : read before (' ' :: u) = none :=
      h.headed before _ fun w hw => keyword?_space (h.word_solid hw).left (h.word_solid hw).right u
    have he : Text.lead (s :: pieces) ++ t = s ++ ' ' :: (Text.lead pieces ++ t) := by
      simp [Text.lead]
    rw [he, removeFrom_append h hs rfl, removeFrom_of_none (hspace _ _), hi hp]
    simp [Text.lead, latest]

theorem removeFrom_skipped (before : Option Char) (s t : Text) :
    removeFrom read before s.length (s ++ t) = removeFrom read (latest before s) 0 t := by
  induction s generalizing before
  case nil => rfl
  case cons c s hi =>
    rw [List.cons_append, List.length_cons, removeFrom, if_pos (Nat.succ_pos _), Nat.add_sub_cancel, hi, latest_cons]

-- What the reader takes is removed.
theorem removeFrom_taken (hn : s ≠ []) (hr : read before (s ++ t) = some t) :
    removeFrom read before 0 (s ++ t) = removeFrom read (latest before s) 0 t := by
  obtain ⟨c, s, rfl⟩ := List.exists_cons_of_ne_nil hn
  rw [List.cons_append, removeFrom, if_neg (Nat.lt_irrefl 0), ←List.cons_append, hr]
  simp only [List.length_append, Nat.add_sub_cancel]
  exact removeFrom_skipped (some c) s t

end Removal

end Clause

namespace KeyPhrase

theorem text_eq (k : KeyPhrase) : (Part.key k).text = Text.lead k.introduction ++ k.name := by
  rw [Part.text, Part.words, Text.join_append_cons, Text.trail, List.flatMap_nil, List.append_nil]

section Search

variable {α : Type} {read : Option Char → Text → Option (α × Text)} {heads : List Text}

theorem passes_introduction (k : KeyPhrase) (h : HeadedBy read heads)
    (hh : ∀ w ∈ heads, w ∈ clauseHeads ∧ w ∉ Part.Kind.key.heads) : ∀ s ∈ k.introduction, Passes read s :=
  fun s hs => h.passes fun w hw => Part.not_mentions_introduction k (hh w hw).left (hh w hw).right s hs

-- The search passes over the phrase if it passes over the name in it.
theorem passesTo_text (k : KeyPhrase) (h : HeadedBy read heads)
    (hh : ∀ w ∈ heads, w ∈ clauseHeads ∧ w ∉ Part.Kind.key.heads) (hn : PassesTo read k.name t) :
    PassesTo read (Part.key k).text t := by
  rw [k.text_eq]
  exact passesTo_append (h.passes_lead (k.passes_introduction h hh) _) hn

end Search

theorem passesTo_value? (k : KeyPhrase) (ht : beginsBlank t)
    (hn : literalAfter? t = none ∨ ¬EndsIn none ["VALUE".toList, "VALUES".toList] k.name) :
    PassesTo value? (Part.key k).text t :=
  k.passesTo_text headedBy_value? (by decide) (Clause.passesTo_value? k.named.right ht hn)

theorem passesTo_dependingOn? (k : KeyPhrase) (ht : beginsBlank t)
    (hn : keyword? "ON".toList (t.dropWhile isBlank) = none) : PassesTo dependingOn? (Part.key k).text t :=
  k.passesTo_text headedBy_dependingOn? (by decide)
    (Clause.passesTo_dependingOn? k.named.isToken.solid ht hn)

end KeyPhrase

end Source
end Copybook
