import Copybook.Proofs.Source.Declaration
import Copybook.Proofs.Source.Reader

/-!
Statements as they are written: words with blanks between them, keywords in either case. The reader of declarations
sees the words with single spaces between them.
-/

namespace Copybook
namespace Source

variable {s t word : Text} {words : List Text} {c : Char}

-- One of some words, in either case.
def OneOf (words : List Text) (s : Text) : Prop :=
  ∃ w ∈ words, Text.Spells w s

instance : Decidable (OneOf words s) :=
  inferInstanceAs <| Decidable (∃ w ∈ words, _)

-- The words of one of some phrases, in either case.
def Phrase (phrases : List (List Text)) (words : List Text) : Prop :=
  ∃ p ∈ phrases, List.Forall₂ Text.Spells p words

-- Whether a character has no meaning of its own to the reader of statements.
def isPlainChar (c : Char) : Bool :=
  !isBlank c && !isQuote c && c != '.'

theorem isPlainChar_iff : isPlainChar c ↔ isBlank c = false ∧ isQuote c = false ∧ c ≠ '.' := by
  simp [isPlainChar, and_assoc]

theorem isPlainChar_toLower (c : Char) : isPlainChar c.toLower = isPlainChar c :=
  eq_toLower (by decide +kernel) c

-- A part of a statement that the reader of statements leaves as it is.
structure IsPiece (s : Text) : Prop where
  begun : Begun s
  kept : ∀ spaced t, collapseFrom none spaced (s ++ t) = s ++ collapseFrom none false t
  ended : ∃ u c, s = u ++ [c] ∧ isBlank c = false ∧ c ≠ '.'

-- A word outside literals that no period ends.
structure IsToken (s : Text) : Prop extends IsWord s where
  unquoted : ∀ c ∈ s, isQuote c = false
  unpointed : s.getLast? ≠ some '.'

namespace IsToken

theorem of_plain (hn : s ≠ []) (h : ∀ c ∈ s, isPlainChar c) : IsToken s where
  nonempty := hn
  solid c hc := (isPlainChar_iff.mp (h c hc)).left
  unquoted c hc := (isPlainChar_iff.mp (h c hc)).right.left
  unpointed hl := (isPlainChar_iff.mp (h _ (List.mem_of_getLast? hl))).right.right rfl

theorem isPiece (h : IsToken s) : IsPiece s where
  begun := h.begun
  kept := collapseFrom_word (fun c hc => ⟨h.solid c hc, h.unquoted c hc⟩) h.nonempty
  ended := by
    obtain ⟨u, c, rfl⟩ := List.eq_nil_or_concat s |>.resolve_left h.nonempty
    exact ⟨u, c, List.concat_eq_append, h.solid c (by simp), fun hc => h.unpointed (by simp [hc])⟩

theorem not_mem_newline (h : IsToken s) : '\n' ∉ s :=
  fun hm => absurd (h.solid _ hm) (by decide)

end IsToken

-- Whether all of some words may be keywords.
def arePlain (words : List Text) : Bool :=
  words.all fun w => !w.isEmpty && w.all isPlainChar

theorem isToken_of_spells (hp : arePlain words) (hw : word ∈ words) (h : Text.Spells word s) : IsToken s := by
  have hp := List.all_eq_true.mp hp word hw
  simp only [Bool.and_eq_true, Bool.not_eq_true', List.isEmpty_eq_false_iff, List.all_eq_true] at hp
  exact .of_plain (h.ne_nil hp.left) (h.forall (fun c => by rw [isPlainChar_toLower]) hp.right)

theorem OneOf.isToken (hp : arePlain words) (h : OneOf words s) : IsToken s :=
  have ⟨_, hw, h⟩ := h
  isToken_of_spells hp hw h

theorem OneOf.mono {words words' : List Text} (h : OneOf words s) (hw : words ⊆ words') : OneOf words' s :=
  have ⟨w, hm, hs⟩ := h
  ⟨w, hw hm, hs⟩

theorem Phrase.oneOf {phrases : List (List Text)} (h : Phrase phrases words) : ∀ w ∈ words, OneOf phrases.flatten w := by
  obtain ⟨phrase, hm, h⟩ := h
  exact forall_of_forall₂ h fun w hw s hs => ⟨w, List.mem_flatten_of_mem hm hw, hs⟩

-- The words with blanks between them, and only there.
inductive Spaced : List Text → Text → Prop
  | last (word : Text) : Spaced [word] word
  | cons {word blanks rest : Text} {words : List Text} (hn : blanks ≠ []) (hb : ∀ c ∈ blanks, isBlank c)
    (h : Spaced words rest) : Spaced (word :: words) (word ++ (blanks ++ rest))

theorem Spaced.join (hn : words ≠ []) : Spaced words (Text.join [' '] words) := by
  induction words
  case nil => contradiction
  case cons s words hi =>
    cases words
    case nil => exact .last s
    case cons t words =>
      rw [Text.join, List.append_assoc]
      exact .cons (List.cons_ne_nil _ _) (List.forall_mem_singleton.mpr (by decide)) (hi (List.cons_ne_nil _ _))

theorem collapseFrom_spaced (h : Spaced words s) (hp : ∀ w ∈ words, IsPiece w) (spaced : Bool) :
    collapseFrom none spaced s = Text.join [' '] words := by
  induction h generalizing spaced
  case last s =>
    have hk := (List.forall_mem_singleton.mp hp).kept spaced []
    rwa [List.append_nil, collapseFrom, List.append_nil] at hk
  case cons s blanks words t hn hb h hi =>
    obtain ⟨hs, hp⟩ := List.forall_mem_cons.mp hp
    rw [hs.kept, collapseFrom_run hb hn, hi hp, Text.join_cons]
    cases h <;> simp [Text.join_cons, Text.trail]

-- Pieces one after another end as a piece does.
theorem ended_join (hn : words ≠ []) (hp : ∀ w ∈ words, IsPiece w) :
    ∃ u c, Text.join [' '] words = u ++ [c] ∧ isBlank c = false ∧ c ≠ '.' := by
  cases words using List.reverseRecOn
  case nil => contradiction
  case append_singleton words s _ =>
    obtain ⟨u, c, rfl, hc⟩ := (hp s (by simp)).ended
    refine ⟨Text.lead words ++ u, c, ?_, hc⟩
    rw [Text.join_append_cons, Text.trail, List.flatMap_nil, List.append_nil, List.append_assoc]

theorem collapse_spaced (h : Spaced words s) (hp : ∀ w ∈ words, IsPiece w) : collapse s = Text.join [' '] words := by
  have hn : words ≠ [] := by cases h <;> exact List.cons_ne_nil _ _
  obtain ⟨u, c, he, hc, -⟩ := ended_join hn hp
  rw [collapse_eq, collapseFrom_spaced h hp, he, Text.dropRight_concat_of_neg _ hc]

-- A level has one digit or two.
structure IsLevel (s : Text) : Prop where
  digits : ∀ c ∈ s, isDecimalDigit c
  nonempty : s ≠ []
  short : s.length ≤ 2

theorem isPlainChar_of_isDecimalDigit (h : isDecimalDigit c) : isPlainChar c := by
  have hn : c ≠ '\'' ∧ c ≠ '"' ∧ c ≠ '.' := by
    refine ⟨?_, ?_, ?_⟩ <;> rintro rfl <;> exact absurd h (by decide +kernel)
  have hb : isBlank c = false := by
    refine Bool.eq_false_iff.mpr fun hb => ?_
    rw [isDecimalDigit_of_isBlank hb] at h
    contradiction
  simpa [isPlainChar, isQuote, hb, and_assoc] using hn

theorem IsLevel.isToken (h : IsLevel s) : IsToken s :=
  .of_plain h.nonempty fun c hc => isPlainChar_of_isDecimalDigit (h.digits c hc)

-- A statement that begins with a level is not blank.
theorem not_blank_of_spaced (hl : IsLevel word) (hs : Spaced (word :: words) s) : s.all isBlank = false := by
  obtain ⟨c, t, he, hc⟩ := hl.isToken.toIsWord.begun
  have hm : c ∈ s := by
    cases hs
    case last => simp [he]
    case cons => simp [he]
  exact Bool.eq_false_iff.mpr fun h => absurd (List.all_eq_true.mp h c hm) (by simp [hc])

theorem IsName.isToken (h : IsName s) : IsToken s := by
  refine .of_plain h.left fun c hc => ?_
  have all : ∀ n < 0x80, isNameChar (Char.ofNat n) → isPlainChar (Char.ofNat n) := by decide +kernel
  have hlt : c.toNat < 0x80 := by
    have hn := h.right c hc
    simp only [isNameChar, Bool.or_eq_true, beq_iff_eq] at hn
    rcases hn with (hn | rfl) | rfl
    · exact (toNat_of_isAlphanum hn).right.trans (by decide)
    · decide
    · decide
  simpa using all c.toNat hlt (by simpa using h.right c hc)

theorem onlyLine?_join (hp : ∀ w ∈ words, IsPiece w) :
    onlyLine? (Text.join [' '] words) =
      if '\n' ∈ Text.join [' '] words then none else some (Text.join [' '] words) := by
  split
  case isFalse h =>
    have hn : ∀ c ∈ Text.join [' '] words, c != '\n' := fun c hc => bne_iff_ne.mpr fun he => h (he ▸ hc)
    rw [onlyLine?, List.takeWhile_eq_self_iff.mpr hn, List.dropWhile_eq_nil_iff.mpr hn]
    rfl
  case isTrue h =>
    have hn : words ≠ [] := fun he => by simp [he, Text.join] at h
    obtain ⟨u, c, he, hc, -⟩ := ended_join hn hp
    -- The last character is no newline, so there is more after the first one.
    have hd : c ∈ (u ++ [c]).dropWhile (· != '\n') := by
      obtain ⟨d, hm, hd⟩ : ∃ d ∈ u, d = '\n' := by
        rcases List.mem_append.mp (he ▸ h) with hm | hm
        · exact ⟨_, hm, rfl⟩
        · exact absurd (List.mem_singleton.mp hm ▸ hc) (by decide)
      rw [List.dropWhile_append, if_neg]
      · simp
      · rw [List.isEmpty_iff, List.dropWhile_eq_nil_iff]
        exact fun hall => absurd hd (bne_iff_ne.mp (hall d hm))
    have hne : (u ++ [c]).dropWhile (· != '\n') ≠ ['\n'] := fun hr =>
      absurd (List.mem_singleton.mp (hr ▸ hd) ▸ hc) (by decide)
    rw [onlyLine?, he, if_neg]
    simp [List.ne_nil_of_mem hd, hne]

variable {level name : Text}

theorem isNameChar_of_isBlank (h : isBlank c) : isNameChar c = false :=
  eq_false_of_isBlank (by decide +kernel) h

theorem digits?_append (hn : s ≠ []) (hs : ∀ c ∈ s, isDecimalDigit c) (ht : beginsBlank t) :
    Clause.digits? (s ++ t) = some (s, t) := by
  have ⟨htake, hdrop⟩ := takeWhile_append_of_beginsBlank hs (fun _ => isDecimalDigit_of_isBlank) ht
  rw [Clause.digits?, htake, hdrop]
  simp [hn]

-- The header is read, unless a literal goes on after the end of a line.
theorem header?_join (hl : IsLevel level) (hn : IsName name) (hp : ∀ w ∈ words, IsPiece w) :
    header? (Text.join [' '] (level :: name :: words)) =
      if '\n' ∈ Text.join [' '] words then none else some (Text.toNat level, name, Text.join [' '] words) := by
  have hd : Clause.digits? (level ++ ' ' :: (name ++ Text.trail words)) = some (level, ' ' :: (name ++ Text.trail words)) :=
    digits?_append hl.nonempty hl.digits rfl
  have hb : Clause.blanks? (' ' :: (name ++ Text.trail words)) = some (name ++ Text.trail words) :=
    Clause.blanks?_space hn.isToken.toIsWord.begun _
  have ⟨htake, hdrop⟩ := takeWhile_append_of_beginsBlank hn.right (fun _ => isNameChar_of_isBlank) (beginsBlank_trail words)
  rw [Text.join_cons, Text.trail_cons, header?, hd]
  simp only [Option.bind_eq_bind, Option.bind_some, hb, htake, hdrop, Nat.not_lt.mpr hl.short, if_false,
    List.isEmpty_eq_false_iff.mpr hn.left]
  cases words
  case nil => rfl
  case cons w words =>
    obtain ⟨hw, -⟩ := List.forall_mem_cons.mp hp
    have ho := onlyLine?_join hp
    rw [Text.join_cons] at ho ⊢
    rw [Text.trail_cons, Clause.blanks?_space hw.begun]
    simp only [Option.bind_some, ho]
    obtain ⟨c, t, rfl, hc⟩ := hw.begun
    by_cases hm : '\n' ∈ c :: t ++ Text.trail words
    case pos =>
      simp only [if_pos hm]
      simp
    case neg =>
      simp only [if_neg hm]
      simp

-- The name that an item is given.
def shownName (name : Text) : Text :=
  if name.upper = fillerName then fillerName else normalizeName name

theorem nameOrFiller_of_not_mem (hn : name.upper ∉ clauseWords) (s : Text) :
    nameOrFiller name s = (if name.upper = fillerName then fillerName else name, s) := by
  rw [nameOrFiller, if_neg (by simpa using hn)]
  split <;> rfl

-- The name and the clauses of a statement are read from its words with single spaces between them.
theorem declare_headed (hl : IsLevel level) (hn : IsName name) (hp : ∀ w ∈ words, IsPiece w)
    (hs : Spaced (level :: name :: words) s) :
    declare s = if '\n' ∈ Text.join [' '] words then .error .unreadable
      else (clauses (nameOrFiller name (Text.join [' '] words)).2).map fun c =>
        (Text.toNat level, normalizeName (nameOrFiller name (Text.join [' '] words)).1, c) := by
  have hall : ∀ w ∈ level :: name :: words, IsPiece w :=
    List.forall_mem_cons.mpr ⟨hl.isToken.isPiece, List.forall_mem_cons.mpr ⟨hn.isToken.isPiece, hp⟩⟩
  obtain ⟨u, c, he, -, hd⟩ := ended_join (List.cons_ne_nil _ _) hall
  have hr : Text.dropRight (· == '.') (collapse s) = Text.join [' '] (level :: name :: words) := by
    rw [collapse_spaced hs hall, he, Text.dropRight_concat_of_neg _ (by simpa using hd)]
  rw [declare, hr, header?_join hl hn hp]
  by_cases hm : '\n' ∈ Text.join [' '] words
  case pos =>
    rw [if_pos hm, if_pos hm]
    rfl
  case neg =>
    rw [if_neg hm, if_neg hm]
    dsimp only
    cases clauses (nameOrFiller name (Text.join [' '] words)).2 <;> rfl

theorem declare_spaced (hl : IsLevel level) (hn : IsName name) (hc : name.upper ∉ clauseWords)
    (hp : ∀ w ∈ words, IsPiece w) (hs : Spaced (level :: name :: words) s) :
    declare s = if '\n' ∈ Text.join [' '] words then .error .unreadable
      else (clauses (Text.join [' '] words)).map fun c => (Text.toNat level, shownName name, c) := by
  have hf : normalizeName (if name.upper = fillerName then fillerName else name) = shownName name := by
    unfold shownName
    split <;> rfl
  rw [declare_headed hl hn hp hs, nameOrFiller_of_not_mem hc, hf]

-- Words that begin with one that cannot be a name.
def BeginsClause (words : List Text) : Prop :=
  ∃ keyword rest, OneOf clauseWords keyword ∧ rest ≠ [] ∧ words = keyword :: rest

theorem BeginsClause.append (h : BeginsClause words) (more : List Text) : BeginsClause (words ++ more) := by
  obtain ⟨keyword, rest, hk, hn, rfl⟩ := h
  exact ⟨keyword, rest ++ more, hk, by simp [hn], rfl⟩

theorem BeginsClause.of_append {more : List Text} (hl : 2 ≤ words.length) (h : BeginsClause (words ++ more)) :
    BeginsClause words := by
  obtain ⟨keyword, rest, hk, -, he⟩ := h
  match words, hl with
  | w :: w' :: words, _ =>
    cases (List.cons.inj he).left
    exact ⟨_, w' :: words, hk, List.cons_ne_nil _ _, rfl⟩

theorem isName_of_clauseWord (h : OneOf clauseWords word) : IsName word := by
  obtain ⟨w, hw, h⟩ := h
  have all : clauseWords.all fun w => !w.isEmpty && w.all isNameChar := rfl
  have hall := List.all_eq_true.mp all w hw
  simp only [Bool.and_eq_true, Bool.not_eq_true', List.isEmpty_eq_false_iff, List.all_eq_true] at hall
  exact ⟨h.ne_nil hall.left, h.forall (fun c => by rw [@eq_toLower _ isNameChar (by decide +kernel) c]) hall.right⟩

theorem upper_mem_clauseWords (h : OneOf clauseWords word) : word.upper ∈ clauseWords := by
  obtain ⟨w, hw, h⟩ := h
  have all : clauseWords.all fun w => w.upper == w && w.all fun c => decide (c.toNat < 0x80) := rfl
  have hall := List.all_eq_true.mp all w hw
  simp only [Bool.and_eq_true, beq_iff_eq, List.all_eq_true, decide_eq_true_eq] at hall
  have hs : Text.IsAscii word :=
    h.forall (fun c => by rw [@eq_toLower _ (·.toNat < 0x80) (by decide +kernel) c]) hall.right
  rwa [h.upper_eq hall.right hs, hall.left]

-- A statement without a name declares a filler.
theorem declare_unnamed (hl : IsLevel level) (hc : BeginsClause words) (hp : ∀ w ∈ words, IsPiece w)
    (hs : Spaced (level :: words) s) :
    declare s = if '\n' ∈ Text.join [' '] words then .error .unreadable
      else (clauses (Text.join [' '] words)).map fun c => (Text.toNat level, fillerName, c) := by
  obtain ⟨keyword, rest, hk, hn, rfl⟩ := hc
  have hname := isName_of_clauseWord hk
  have he : keyword ++ ' ' :: Text.join [' '] rest = Text.join [' '] (keyword :: rest) := by
    rw [Text.join_cons, Text.trail_of_ne_nil hn]
  have hm : '\n' ∈ Text.join [' '] (keyword :: rest) ↔ '\n' ∈ Text.join [' '] rest := by
    simp [←he, hname.isToken.not_mem_newline]
  have hf : nameOrFiller keyword (Text.join [' '] rest) = (fillerName, Text.join [' '] (keyword :: rest)) := by
    rw [nameOrFiller, if_pos (List.contains_iff_mem.mpr (upper_mem_clauseWords hk)), he]
  simp only [declare_headed hl hname (List.forall_mem_cons.mp hp).right hs, hf, hm]
  rfl

end Source
end Copybook
