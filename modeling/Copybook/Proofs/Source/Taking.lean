import Copybook.Proofs.Source.Parts

/-!
What the readers of clauses take of a clause as it is written, with blanks or nothing after it.
-/

namespace Copybook

namespace Source

variable {s t word : Text} {c : Char} {before : Option Char}

namespace Clause

theorem wordEnds_of_beginsBlank (ht : beginsBlank t) : wordEnds t := by
  cases t
  case nil => rfl
  case cons c t =>
    have hc : isBlank c := by simpa [beginsBlank] using ht
    simp [wordEnds, isWordChar_of_isBlank hc]

theorem not_isBlank_of_all (h : word.all (!isBlank ·)) : ∀ l ∈ word, isBlank l = false := by
  simpa using h

theorem keyword?_of_beginsBlank (hn : word ≠ []) (hw : word.all (!isBlank ·)) (ht : beginsBlank t) :
    keyword? word t = none := by
  have h := keyword?_append (not_isBlank_of_all hw) ht []
  obtain ⟨l, word, rfl⟩ := List.exists_cons_of_ne_nil hn
  rwa [List.nil_append] at h

-- A word that another one does not begin with is not there, however that one is spelled.
theorem keyword?_of_spells {other : Text} (hw : ∀ l ∈ word, isBlank l = false) (hn : (keyword? word other).isNone)
    (hs : Text.Spells other s) (ht : beginsBlank t) : keyword? word (s ++ t) = none := by
  have hk : keyword? word s = none := by
    rw [←Option.not_isSome_iff_eq_none, keyword?_isSome_spells hs]
    simpa using hn
  rw [keyword?_append hw ht, hk]
  rfl

-- A keyword with a longer form is skipped in either.
theorem keyword?_longer {short rest kw : Text} (hn : rest ≠ []) (hb : rest.all (!isBlank ·)) (ht : beginsBlank t)
    (h : OneOf [short, short ++ rest] kw) :
    ∃ u, keyword? short (kw ++ t) = some u ∧ (keyword? rest u).getD u = t := by
  obtain ⟨w, hw, h⟩ := h
  simp only [List.mem_cons, List.not_mem_nil, or_false] at hw
  rcases hw with rfl | rfl
  case inl => exact ⟨t, keyword?_spells h t, by rw [keyword?_of_beginsBlank hn hb ht, Option.getD_none]⟩
  case inr =>
    obtain ⟨a, b, rfl, ha, hb⟩ := h.of_append
    exact ⟨b ++ t, by rw [List.append_assoc, keyword?_spells ha], by rw [keyword?_spells hb, Option.getD_some]⟩

theorem phrase?_of_keyword? (h : keyword? word s = none) : phrase? word s = none := by
  rw [phrase?, h]
  rfl

theorem phrase?_of_spells {other : Text} (hw : word.all (!isBlank ·)) (hn : (keyword? word other).isNone)
    (hs : Text.Spells other s) (ht : beginsBlank t) : phrase? word (s ++ t) = none :=
  phrase?_of_keyword? (keyword?_of_spells (not_isBlank_of_all hw) hn hs ht)

-- What a reader takes where it begins is what is found.
theorem search_of_read {α : Type} {read : Option Char → Text → Option (α × Text)} {item : α} {rest : Text}
    (h : read before s = some (item, rest)) : search read before s = some ⟨[], item, rest⟩ := by
  cases s <;> rw [search, h]
  rfl

-- The readers where a word begins.
section Begun

variable (hb : wordBegins before)

include hb

theorem value?_of_wordBegins (s : Text) : value? before s = (keyword? "VALUE".toList s).bind fun s =>
    (blanks? ((keyword? "S".toList s).getD s)).bind fun s =>
      (phrase? "IS".toList s <|> phrase? "ARE".toList s).bind literal? <|> literal? s := by
  rw [value?, hb]
  rfl

theorem picture?_of_wordBegins (s : Text) : picture? before s = (keyword? "PIC".toList s).bind fun s =>
    (blanks? ((keyword? "TURE".toList s).getD s)).bind fun s =>
      (phrase? "IS".toList s).bind word? <|> word? s := by
  rw [picture?, hb]
  rfl

theorem occurs?_of_wordBegins (s : Text) : occurs? before s = (phrase? "OCCURS".toList s).bind fun s =>
    (digits? s).bind fun (digits, rest) =>
      match (blanks? rest).bind (keyword? "TIMES".toList ·) |>.filter wordEnds with
      | some rest => some (digits, rest)
      | none => if wordEnds rest then some (digits, rest) else none := by
  rw [occurs?, hb]
  rfl

theorem keyPhrase?_of_wordBegins (s : Text) : keyPhrase? before s =
    ((phrase? "INDEXED".toList s).bind (phrase? "BY".toList) <|>
      (phrase? "ASCENDING".toList s <|> phrase? "DESCENDING".toList s).bind fun s =>
        (phrase? "KEY".toList s).bind (phrase? "IS".toList)).bind fun s => (word? s).bind fun found => some found.2 := by
  rw [keyPhrase?, hb]
  rfl

theorem usage?_of_wordBegins (s : Text) : usage? before s =
    (((phrase? "USAGE".toList s).bind fun s => usageWord? (skip "IS".toList s)) <|> usageWord? s) := by
  rw [usage?, hb]
  rfl

end Begun

end Clause

open Clause

theorem begun_join {words : List Text} (hn : words ≠ []) (hp : ∀ w ∈ words, IsPiece w) : Begun (Text.join [' '] words) := by
  obtain ⟨w, words, rfl⟩ := List.exists_cons_of_ne_nil hn
  obtain ⟨c, t, rfl, hc⟩ := (hp w List.mem_cons_self).begun
  exact ⟨c, t ++ Text.trail words, by rw [Text.join_cons]; rfl, hc⟩

theorem Literal.begun (l : Literal) : Begun l.text :=
  begun_join l.words_ne_nil l.isPiece

theorem Part.begun (p : Part) : Begun p.text :=
  begun_join p.words_ne_nil p.isPiece

theorem ValueClause.takes (v : ValueClause) (hb : wordBegins before) (ht : beginsBlank t) :
    value? before ((Part.value v).text ++ t) = some (v.literal.text, t) := by
  have he : (Part.value v).text ++ t =
      v.keyword ++ ' ' :: (Text.lead v.linking.toList ++ (v.literal.text ++ t)) := by
    rw [Part.text, Part.words, Text.join_cons, Text.trail_append, Text.trail_of_ne_nil v.literal.words_ne_nil]
    cases v.linking <;> simp [Text.trail, Text.lead, Literal.text]
  obtain ⟨u, hk, hs⟩ := @keyword?_longer (' ' :: (Text.lead v.linking.toList ++ (v.literal.text ++ t))) "VALUE".toList
    "S".toList v.keyword (by decide) rfl rfl v.spelled
  have hphrase {w : Text} (hw : w ∈ Literal.notLiteral) : phrase? w (v.literal.text ++ t) = none :=
    phrase?_of_keyword? (v.literal.keyword?_text hw ht)
  rw [he, value?_of_wordBegins hb, hk, Option.bind_some, hs]
  cases h : v.linking
  case none =>
    rw [Option.toList_none, Text.lead, List.flatMap_nil, List.nil_append, blanks?_space v.literal.begun,
      Option.bind_some, hphrase (by decide), hphrase (by decide), v.literal.takes ht]
    rfl
  case some w =>
    have hw : IsWord w := ((v.linked w h).isToken rfl).toIsWord
    have hl : phrase? "IS".toList (w ++ ' ' :: (v.literal.text ++ t)) = some (v.literal.text ++ t) ∨
        phrase? "IS".toList (w ++ ' ' :: (v.literal.text ++ t)) = none ∧
          phrase? "ARE".toList (w ++ ' ' :: (v.literal.text ++ t)) = some (v.literal.text ++ t) := by
      obtain ⟨l, hm, hs⟩ := v.linked w h
      simp only [List.mem_cons, List.not_mem_nil, or_false] at hm
      rcases hm with rfl | rfl
      · exact .inl (phrase?_spells hs v.literal.begun t)
      · exact .inr ⟨phrase?_of_spells rfl rfl hs rfl, phrase?_spells hs v.literal.begun t⟩
    rw [Option.toList_some, Text.lead, List.flatMap_singleton, List.append_assoc, List.singleton_append,
      blanks?_space hw.begun, Option.bind_some]
    rcases hl with hl | ⟨hi, hl⟩
    · rw [hl]
      simp [v.literal.takes ht]
    · rw [hi, hl]
      simp [v.literal.takes ht]

-- The word after the keyword is taken, whatever it says.
theorem picture?_keyword {keyword format : Text} {linking : Option Text} (hb : wordBegins before) (ht : beginsBlank t)
    (hk : OneOf ["PIC".toList, "PICTURE".toList] keyword) (hl : ∀ w ∈ linking, Text.Spells "IS".toList w)
    (hw : IsWord format) (hi : phrase? "IS".toList (format ++ t) = none) :
    picture? before (keyword ++ ' ' :: (Text.lead linking.toList ++ (format ++ t))) = some (format, t) := by
  obtain ⟨u, hk, hs⟩ := @keyword?_longer (' ' :: (Text.lead linking.toList ++ (format ++ t))) "PIC".toList
    "TURE".toList keyword (by decide) rfl rfl hk
  rw [picture?_of_wordBegins hb, hk, Option.bind_some, hs]
  cases h : linking
  case none =>
    rw [Option.toList_none, Text.lead, List.flatMap_nil, List.nil_append, blanks?_space hw.begun, Option.bind_some, hi,
      word?_append hw ht]
    rfl
  case some w =>
    have hi := hl w h
    have hl : IsWord w := (isToken_of_spells (rfl : arePlain ["IS".toList]) List.mem_cons_self hi).toIsWord
    rw [Option.toList_some, Text.lead, List.flatMap_singleton, List.append_assoc, List.singleton_append,
      blanks?_space hl.begun, Option.bind_some, phrase?_spells hi hw.begun, Option.bind_some, word?_append hw ht]
    rfl

theorem PictureClause.takes (p : PictureClause) (hb : wordBegins before) (ht : beginsBlank t) :
    picture? before ((Part.picture p).text ++ t) = some (p.format, t) := by
  have he : (Part.picture p).text ++ t = p.keyword ++ ' ' :: (Text.lead p.linking.toList ++ (p.format ++ t)) := by
    rw [Part.text, Part.words, Text.join_cons, Text.trail_append]
    cases p.linking <;> simp [Text.trail, Text.lead]
  rw [he]
  exact picture?_keyword hb ht p.spelled p.linked p.plain.toIsWord
    (phrase?_eq_none (not_isBlank_of_all rfl) p.plain.solid p.plain.unlinked ht)

theorem OccursClause.takes (o : OccursClause) (hb : wordBegins before) (ht : beginsBlank t)
    (hn : keyword? "TIMES".toList (t.dropWhile isBlank) = none) :
    occurs? before ((Part.occurs o).text ++ t) = some (o.count, t) := by
  have he : (Part.occurs o).text ++ t = o.keyword ++ ' ' :: (o.count ++ (Text.trail o.times.toList ++ t)) := by
    rw [Part.text, Part.words, Text.join_cons, Text.trail_cons]
    simp
  have hc : Begun o.count := (Part.isPiece (.occurs o) o.count (by simp [Part.words])).begun
  have hd : digits? (o.count ++ (Text.trail o.times.toList ++ t)) = some (o.count, Text.trail o.times.toList ++ t) := by
    refine digits?_append o.count_ne_nil o.digits ?_
    cases o.times
    case none => exact ht
    case some => rfl
  rw [he, occurs?_of_wordBegins hb, phrase?_spells o.spelled hc, Option.bind_some, hd]
  cases h : o.times
  case none =>
    have hk : (blanks? t).bind (keyword? "TIMES".toList ·) = none := by
      unfold blanks?
      split
      · exact hn
      · rfl
    simp only [Option.toList_none, Text.trail, List.flatMap_nil, List.nil_append, Option.bind_some, hk,
      Option.filter_none, if_pos (wordEnds_of_beginsBlank ht)]
  case some w =>
    have hs := o.timed w h
    have hw : IsWord w := (isToken_of_spells (rfl : arePlain ["TIMES".toList]) List.mem_cons_self hs).toIsWord
    have hk : ((blanks? (' ' :: (w ++ t))).bind (keyword? "TIMES".toList ·) |>.filter wordEnds) = some t := by
      rw [blanks?_space hw.begun, Option.bind_some, keyword?_spells hs, Option.filter_some,
        if_pos (wordEnds_of_beginsBlank ht)]
    simp only [Option.toList_some, Text.trail, List.flatMap_singleton, List.cons_append, Option.bind_some, hk]

theorem KeyPhrase.takes (k : KeyPhrase) (hb : wordBegins before) (ht : beginsBlank t) :
    keyPhrase? before ((Part.key k).text ++ t) = some t := by
  have hn := k.named.isToken.toIsWord
  have token {l w : Text} (hl : l ∈ Part.Kind.key.keywords) (hs : Text.Spells l w) : Begun w :=
    (isToken_of_spells (rfl : arePlain Part.Kind.key.keywords) hl hs).toIsWord.begun
  have hkey {w l : Text} (hw : Text.Spells "KEY".toList w) (hl : Text.Spells "IS".toList l) :
      (phrase? "KEY".toList (w ++ ' ' :: (l ++ ' ' :: (k.name ++ t)))).bind (phrase? "IS".toList) =
        some (k.name ++ t) := by
    rw [phrase?_spells hw (token (by decide) hl), Option.bind_some, phrase?_spells hl hn.begun]
  have ofThree (a w l : Text) : Text.join [' '] ([a, w, l] ++ [k.name]) ++ t =
      a ++ ' ' :: (w ++ ' ' :: (l ++ ' ' :: (k.name ++ t))) := by
    simp [Text.join]
  have hname : (word? (k.name ++ t)).bind (fun found => some found.2) = some t := by
    rw [word?_append hn ht]
    rfl
  obtain ⟨phrase, hm, h⟩ := k.introduced
  rw [keyPhrase?_of_wordBegins hb, Part.text, Part.words]
  simp only [List.mem_cons, List.not_mem_nil, or_false] at hm
  rcases hm with rfl | rfl | rfl <;> simp only [List.forall₂_cons_left_iff, List.forall₂_nil_left_iff] at h
  case inl =>
    obtain ⟨i, _, hi, ⟨b, _, hb, rfl, rfl⟩, he⟩ := h
    have hj : Text.join [' '] ([i, b] ++ [k.name]) ++ t = i ++ ' ' :: (b ++ ' ' :: (k.name ++ t)) := by
      simp [Text.join]
    rw [he, hj, phrase?_spells hi (token (by decide) hb), Option.bind_some, phrase?_spells hb hn.begun]
    exact hname
  case inr.inl =>
    obtain ⟨a, _, ha, ⟨w, _, hw, ⟨l, _, hl, rfl, rfl⟩, rfl⟩, he⟩ := h
    rw [he, ofThree, phrase?_of_spells rfl rfl ha rfl, phrase?_spells ha (token (by decide) hw)]
    exact (congrArg (Option.bind · _) (hkey hw hl)).trans hname
  case inr.inr =>
    obtain ⟨d, _, hd, ⟨w, _, hw, ⟨l, _, hl, rfl, rfl⟩, rfl⟩, he⟩ := h
    rw [he, ofThree, phrase?_of_spells rfl rfl hd rfl, phrase?_of_spells rfl rfl hd rfl,
      phrase?_spells hd (token (by decide) hw)]
    exact (congrArg (Option.bind · _) (hkey hw hl)).trans hname

namespace Part

-- The words that clauses begin with.
def firstWords : List Text :=
  ["VALUE".toList, "VALUES".toList, "OCCURS".toList, "INDEXED".toList, "ASCENDING".toList, "DESCENDING".toList,
    "PIC".toList, "PICTURE".toList, "USAGE".toList] ++ storageUsages

theorem first_word (p : Part) : ∃ w words, p.words = w :: words ∧ OneOf firstWords w := by
  cases p
  case value v => exact ⟨_, _, rfl, v.spelled.mono (by decide)⟩
  case occurs o => exact ⟨_, _, rfl, _, by decide, o.spelled⟩
  case picture p => exact ⟨_, _, rfl, p.spelled.mono (by decide)⟩
  case key k =>
    obtain ⟨phrase, hm, h⟩ := k.introduced
    simp only [List.mem_cons, List.not_mem_nil, or_false] at hm
    rcases hm with rfl | rfl | rfl <;>
      obtain ⟨w, _, hw, _, he⟩ := List.forall₂_cons_left_iff.mp h <;>
      exact ⟨w, _, by rw [words, he]; rfl, _, by decide, hw⟩
  case usage u =>
    obtain ⟨phrase, hm, h⟩ := u.introduced
    simp only [List.mem_cons, List.not_mem_nil, or_false] at hm
    rcases hm with rfl | hm
    case inl =>
      have he := List.forall₂_nil_left_iff.mp h
      exact ⟨u.item, [], by rw [words, he]; rfl, (u.known he).mono (List.subset_append_right _ _)⟩
    case inr =>
      rcases hm with rfl | rfl <;>
        obtain ⟨w, _, hw, _, he⟩ := List.forall₂_cons_left_iff.mp h <;>
        exact ⟨w, _, by rw [words, he]; rfl, _, by decide, hw⟩

theorem isToken_first (h : OneOf firstWords s) : IsToken s :=
  h.isToken rfl

-- Words that no clause begins with.
def notFirst : List Text :=
  ["TIMES".toList, "ON".toList, "REDEFINES".toList]

theorem keyword?_text (p : Part) (hw : word ∈ notFirst) (ht : beginsBlank t) : keyword? word (p.text ++ t) = none := by
  have all : ∀ w ∈ notFirst, ∀ f ∈ firstWords, (keyword? w f).isNone := by decide +kernel
  have solid : notFirst.all (·.all (!isBlank ·)) := rfl
  obtain ⟨w, words, he, f, hf, hs⟩ := p.first_word
  have hb : beginsBlank (Text.trail words ++ t) := by
    cases words
    case nil => exact ht
    case cons => rfl
  rw [text, he, Text.join_cons, List.append_assoc]
  exact keyword?_of_spells (not_isBlank_of_all (List.all_eq_true.mp solid word hw)) (all word hw f hf) hs hb

end Part

end Source
end Copybook
