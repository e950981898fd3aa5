import Copybook.Proofs.Source.Writing

/-!
The clauses of a declaration as they are written. Their readers take each as it stands, with blanks or nothing after it,
and the readers of other clauses find nothing in it.
-/

namespace Copybook

namespace Text.Spells

variable {a b word s : Text}

theorem of_append (h : Spells (a ++ b) s) : ∃ t u, s = t ++ u ∧ Spells a t ∧ Spells b u := by
  obtain ⟨t, u, rfl, ht, hu⟩ := List.map_eq_append_iff.mp (h.trans List.map_append)
  exact ⟨t, u, rfl, ht, hu⟩

end Text.Spells

namespace Source

variable {s t word : Text} {c : Char} {before : Option Char}

namespace Clause

theorem not_mentions_spells (hw : ¬Mentions word t) (h : Text.Spells t s) : ¬Mentions word s :=
  fun hm => hw ((mentions_spells h).mp hm)

theorem keyword?_isSome_spells (h : Text.Spells t s) : (keyword? word s).isSome = (keyword? word t).isSome := by
  have hs := congrArg Option.isSome (keyword?_toLower word s)
  have ht := congrArg Option.isSome (keyword?_toLower word t)
  rw [Option.isSome_map] at hs ht
  rw [←hs, ←ht, h]

end Clause

-- The words by which clauses are searched for.
def clauseHeads : List Text :=
  ["VALUE".toList, "DEPENDING".toList, "OCCURS".toList, "INDEXED".toList, "ASCENDING".toList, "DESCENDING".toList,
    "PIC".toList, "USAGE".toList]

-- A word in which no clause begins, and which is not `IS`.
structure IsPlain (s : Text) : Prop extends IsToken s where
  mute : ∀ w ∈ clauseHeads, ¬Clause.Mentions w s
  unlinked : Clause.keyword? "IS".toList s ≠ some []

-- The symbols of formats, in either case.
def pictureSymbols : Text :=
  "ABCDEGNPRSVXZabcdegnprsvxz0123456789()+-*/,.$".toList

-- Each keyword has a letter that is no symbol of formats.
theorem isPlain_of_symbols (hn : s ≠ []) (hs : s ⊆ pictureSymbols) (hl : s.getLast? ≠ some '.') : IsPlain s where
  nonempty := hn
  solid c hc := by
    have all : pictureSymbols.all (!isBlank ·) := rfl
    simpa using List.all_eq_true.mp all c (hs hc)
  unquoted c hc := by
    have all : pictureSymbols.all (!isQuote ·) := rfl
    simpa using List.all_eq_true.mp all c (hs hc)
  unpointed := hl
  mute w hw := by
    have all : clauseHeads.all fun w => w.any fun l => pictureSymbols.all (!sameLetter l ·) := rfl
    obtain ⟨l, hl, h⟩ := List.any_eq_true.mp (List.all_eq_true.mp all w hw)
    exact Clause.not_mentions_of_lacks hl fun c hc => by simpa using List.all_eq_true.mp h c (hs hc)
  unlinked := by
    have all : pictureSymbols.all (!sameLetter 'I' ·) := rfl
    obtain ⟨c, t, rfl⟩ := List.exists_cons_of_ne_nil hn
    have hc : sameLetter 'I' c = false := by simpa using List.all_eq_true.mp all c (hs List.mem_cons_self)
    rw [show "IS".toList = ['I', 'S'] from rfl, Clause.keyword?, hc]
    exact (Option.some_ne_none _).symm

-- The usages of numbers that are stored in other ways than digit by digit.
def storageUsages : List Text :=
  ["COMP".toList, "COMP-3".toList, "COMP-4".toList, "COMP-5".toList, "COMPUTATIONAL".toList, "COMPUTATIONAL-3".toList,
    "COMPUTATIONAL-4".toList, "COMPUTATIONAL-5".toList, "BINARY".toList, "PACKED-DECIMAL".toList]

theorem isPlain_of_storageUsage (h : OneOf storageUsages s) : IsPlain s := by
  obtain ⟨w, hw, h⟩ := h
  have all : ∀ w ∈ storageUsages, (∀ k ∈ clauseHeads, ¬Clause.Mentions k w) ∧
      (Clause.keyword? "IS".toList w).isSome = false := by decide +kernel
  have ⟨hm, hi⟩ := all w hw
  refine ⟨isToken_of_spells (rfl : arePlain storageUsages) hw h, fun k hk => Clause.not_mentions_spells (hm k hk) h,
    fun hs => ?_⟩
  rw [←Clause.keyword?_isSome_spells h, hs] at hi
  contradiction

-- Constants that stand for a value by their name.
def figurativeConstants : List Text :=
  ["ZERO".toList, "ZEROS".toList, "ZEROES".toList, "SPACE".toList, "SPACES".toList, "HIGH-VALUE".toList,
    "HIGH-VALUES".toList, "LOW-VALUE".toList, "LOW-VALUES".toList, "QUOTE".toList, "QUOTES".toList, "NULL".toList,
    "NULLS".toList]

def numeralSymbols : Text :=
  "+-0123456789.".toList

-- A number with a sign or without, that no period ends.
structure IsNumeral (s : Text) : Prop where
  written : ∃ sign ∈ [[], ['+'], ['-']], ∃ t, t ≠ [] ∧ t ⊆ "0123456789.".toList ∧ s = sign ++ t
  unpointed : s.getLast? ≠ some '.'

-- The literal of a clause, and what `ALL` stands before.
inductive Literal
  | quotation (repeated : Option Text) (mark : Char) (content : Text)
    (hr : ∀ w ∈ repeated, Text.Spells "ALL".toList w) (hm : isQuote mark)
  | constant (word : Text) (hw : IsNumeral word ∨ OneOf figurativeConstants word)

namespace Literal

def words : Literal → List Text
  | quotation repeated mark content _ _ => repeated.toList ++ [quoted mark content]
  | constant word _ => [word]

def text (l : Literal) : Text :=
  Text.join [' '] l.words

-- The words that no literal begins with.
def notLiteral : List Text :=
  ["IS".toList, "ARE".toList, "VALUE".toList, "OCCURS".toList, "INDEXED".toList, "ASCENDING".toList,
    "DESCENDING".toList, "PIC".toList, "USAGE".toList, "COMP".toList, "BINARY".toList, "PACKED-DECIMAL".toList]

end Literal

theorem IsNumeral.subset (h : IsNumeral s) : s ⊆ numeralSymbols := by
  obtain ⟨sign, hsign, t, -, ht, rfl⟩ := h.written
  refine List.append_subset.mpr ⟨?_, List.Subset.trans ht (by decide)⟩
  simp only [List.mem_cons, List.not_mem_nil, or_false] at hsign
  rcases hsign with rfl | rfl | rfl <;> decide

theorem IsNumeral.isToken (h : IsNumeral s) : IsToken s where
  nonempty := by
    obtain ⟨sign, -, t, hn, -, rfl⟩ := h.written
    simp [hn]
  solid c hc := by
    have all : numeralSymbols.all (!isBlank ·) := rfl
    simpa using List.all_eq_true.mp all c (h.subset hc)
  unquoted c hc := by
    have all : numeralSymbols.all (!isQuote ·) := rfl
    simpa using List.all_eq_true.mp all c (h.subset hc)
  unpointed := h.unpointed

theorem isToken_of_constant (h : IsNumeral s ∨ OneOf figurativeConstants s) : IsToken s :=
  h.elim IsNumeral.isToken (OneOf.isToken rfl)

theorem keyword?_constant (h : IsNumeral s ∨ OneOf figurativeConstants s) (hw : word ∈ "ALL".toList :: Literal.notLiteral) :
    Clause.keyword? word s = none := by
  rcases h with h | ⟨f, hf, h⟩
  case inl =>
    have all : ("ALL".toList :: Literal.notLiteral).all fun w => w.head?.any fun l =>
      numeralSymbols.all (!sameLetter l ·) := rfl
    obtain ⟨c, t, rfl⟩ := List.exists_cons_of_ne_nil h.isToken.nonempty
    have hl := List.all_eq_true.mp all word hw
    cases word
    case nil => contradiction
    case cons l word =>
      rw [List.head?_cons, Option.any_some] at hl
      have hc : sameLetter l c = false := by
        simpa using List.all_eq_true.mp hl c (h.subset List.mem_cons_self)
      rw [Clause.keyword?, hc]
      rfl
  case inr =>
    have all : ∀ f ∈ figurativeConstants, ∀ w ∈ "ALL".toList :: Literal.notLiteral,
      (Clause.keyword? w f).isSome = false := by decide +kernel
    rw [←Option.not_isSome_iff_eq_none, Clause.keyword?_isSome_spells h, all f hf word hw]
    exact Bool.false_ne_true

theorem isPiece_quoted {mark : Char} (hm : isQuote mark) (content : Text) : IsPiece (quoted mark content) where
  begun := ⟨mark, _, rfl, not_isBlank_of_isQuote hm⟩
  kept := fun spaced t => collapseFrom_quoted hm spaced content t
  ended := ⟨mark :: doubled mark content, mark, by simp [quoted], not_isBlank_of_isQuote hm, ne_of_isQuote hm rfl⟩

theorem sameLetter_of_isQuote {letter mark : Char} (hl : isQuote letter = false) (hm : isQuote mark) :
    sameLetter letter mark = false :=
  sameLetter_eq_false (eq_toLower (by decide +kernel)) (by decide) hl hm

namespace Literal

variable {l : Literal}

theorem isPiece (l : Literal) : ∀ w ∈ l.words, IsPiece w := by
  cases l
  case quotation repeated mark content hr hm =>
    intro w hw
    rcases List.mem_append.mp hw with hw | hw
    · exact (isToken_of_spells (rfl : arePlain ["ALL".toList]) List.mem_cons_self
        (hr w (by simpa using hw))).isPiece
    · exact List.mem_singleton.mp hw ▸ isPiece_quoted hm content
  case constant word hw => exact List.forall_mem_singleton.mpr (isToken_of_constant hw).isPiece

theorem words_ne_nil (l : Literal) : l.words ≠ [] := by
  cases l <;> simp [words]

theorem keyword?_text (l : Literal) (hw : word ∈ notLiteral) (ht : beginsBlank t) :
    Clause.keyword? word (l.text ++ t) = none := by
  have all : notLiteral.all fun w => w.all (fun c => !isBlank c) && !w.isEmpty && w.all (fun c => !isQuote c) := rfl
  have hs := List.all_eq_true.mp all word hw
  simp only [Bool.and_eq_true, List.all_eq_true, Bool.not_eq_true', List.isEmpty_eq_false_iff] at hs
  obtain ⟨⟨hb, hn⟩, hq⟩ := hs
  have quotedNone {mark : Char} (hm : isQuote mark) (u : Text) : Clause.keyword? word (mark :: u) = none := by
    cases word
    case nil => contradiction
    case cons letter word =>
      rw [Clause.keyword?, sameLetter_of_isQuote (hq letter List.mem_cons_self) hm]
      rfl
  cases l
  case quotation repeated mark content hr hm =>
    cases repeated
    case none => exact quotedNone hm _
    case some w =>
      have hall : ∀ w ∈ notLiteral, (Clause.keyword? w "ALL".toList).isSome = false := by decide +kernel
      have hnone : Clause.keyword? word w = none := by
        rw [←Option.not_isSome_iff_eq_none, Clause.keyword?_isSome_spells (hr w rfl), hall word hw]
        exact Bool.false_ne_true
      rw [text, words, Option.toList_some, List.singleton_append, Text.join, List.append_assoc, List.append_assoc,
        Clause.keyword?_append hb rfl, hnone]
      rfl
  case constant w hc =>
    rw [text, words, Text.join, Clause.keyword?_append hb ht, keyword?_constant hc (List.mem_cons_of_mem _ hw)]
    rfl

theorem simpleLiteral?_quoted {mark : Char} (hm : isQuote mark) (content : Text) (ht : beginsBlank t) :
    Clause.simpleLiteral? (quoted mark content ++ t) = some t := by
  have hq : mark = '\'' ∨ mark = '"' := by simpa [isQuote] using hm
  have hh : t.head? ≠ some mark := by
    intro he
    rw [beginsBlank, he, Option.all_some, not_isBlank_of_isQuote hm] at ht
    contradiction
  rw [quoted, List.cons_append, Clause.simpleLiteral?, if_pos hq, List.append_assoc, List.singleton_append,
    Clause.closeQuote_doubled hh]

theorem simpleLiteral?_token (hs : IsToken s) (ht : beginsBlank t) : Clause.simpleLiteral? (s ++ t) = some t := by
  have hq (c : Char) (hc : c ∈ s) : ¬(c = '\'' ∨ c = '"') := by
    simpa [isQuote] using hs.unquoted c hc
  obtain ⟨c, u, rfl⟩ := List.exists_cons_of_ne_nil hs.nonempty
  obtain ⟨-, hdrop⟩ := @takeWhile_append_of_beginsBlank (fun d => !isBlank d && d != '\'' && d != '"') u t
    (fun d hd => by
      have hd := List.mem_cons_of_mem c hd
      simpa [hs.solid d hd] using hq d hd)
    (fun d hd => by simp [hd]) ht
  rw [List.cons_append, Clause.simpleLiteral?, if_neg (hq c List.mem_cons_self), hs.solid c List.mem_cons_self,
    if_neg Bool.false_ne_true, hdrop]

-- A literal is taken as a whole.
theorem takes (l : Literal) (ht : beginsBlank t) : Clause.literal? (l.text ++ t) = some (l.text, t) := by
  suffices h : ((Clause.phrase? "ALL".toList (l.text ++ t)).bind Clause.simpleLiteral? <|>
      Clause.simpleLiteral? (l.text ++ t)) = some t by
    rw [Clause.literal?, h]
    simp [Clause.taken_append]
  cases l
  case quotation repeated mark content hr hm =>
    cases repeated
    case none =>
      have ha : Clause.phrase? "ALL".toList (quoted mark content ++ t) = none := by
        rw [Clause.phrase?, show "ALL".toList = 'A' :: "LL".toList from rfl, quoted, List.cons_append, Clause.keyword?,
          sameLetter_of_isQuote (by decide) hm]
        rfl
      change ((Clause.phrase? "ALL".toList (quoted mark content ++ t)).bind Clause.simpleLiteral? <|>
        Clause.simpleLiteral? (quoted mark content ++ t)) = some t
      rw [ha, simpleLiteral?_quoted hm content ht]
      rfl
    case some w =>
      rw [text, words, Option.toList_some, List.singleton_append, Text.join, List.append_assoc, List.append_assoc,
        List.singleton_append, Text.join, Clause.phrase?_spells (hr w rfl) (isPiece_quoted hm content).begun,
        Option.bind_some, simpleLiteral?_quoted hm content ht]
      rfl
  case constant w hc =>
    have hw := isToken_of_constant hc
    have hall : "ALL".toList.all (!isBlank ·) := rfl
    have ha : Clause.phrase? "ALL".toList (w ++ t) = none := by
      refine Clause.phrase?_eq_none (by simpa using List.all_eq_true.mp hall) hw.solid ?_ ht
      rw [keyword?_constant hc List.mem_cons_self]
      exact (Option.some_ne_none _).symm
    rw [text, words, Text.join, ha, simpleLiteral?_token hw ht]
    rfl

end Literal

-- `VALUE literal`.
structure ValueClause where
  keyword : Text
  linking : Option Text
  literal : Literal
  spelled : OneOf ["VALUE".toList, "VALUES".toList] keyword
  linked : ∀ w ∈ linking, OneOf ["IS".toList, "ARE".toList] w

-- `OCCURS count TIMES`.
structure OccursClause where
  keyword : Text
  count : Text
  times : Option Text
  spelled : Text.Spells "OCCURS".toList keyword
  digits : ∀ c ∈ count, isDecimalDigit c
  positive : Text.toNat count ≠ 0
  timed : ∀ w ∈ times, Text.Spells "TIMES".toList w

-- A phrase that names an index or a key of a table.
structure KeyPhrase where
  introduction : List Text
  name : Text
  introduced : Phrase [["INDEXED".toList, "BY".toList], ["ASCENDING".toList, "KEY".toList, "IS".toList],
    ["DESCENDING".toList, "KEY".toList, "IS".toList]] introduction
  named : IsName name

-- `PICTURE format`.
structure PictureClause where
  keyword : Text
  linking : Option Text
  format : Text
  spelled : OneOf ["PIC".toList, "PICTURE".toList] keyword
  linked : ∀ w ∈ linking, Text.Spells "IS".toList w
  nonempty : format ≠ []
  symbols : format ⊆ pictureSymbols
  unpointed : format.getLast? ≠ some '.'

-- `'content'`
def Literal.ofContent (content : Text) : Literal :=
  .quotation none '\'' content nofun rfl

-- The clauses without the words that may be left out.

def ValueClause.unlinked (keyword : Text) (literal : Literal) (spelled : OneOf ["VALUE".toList, "VALUES".toList] keyword) :
    ValueClause where
  keyword := keyword
  linking := none
  literal := literal
  spelled := spelled
  linked := nofun

def OccursClause.untimed (keyword count : Text) (spelled : Text.Spells "OCCURS".toList keyword)
    (digits : ∀ c ∈ count, isDecimalDigit c) (positive : Text.toNat count ≠ 0) : OccursClause where
  keyword := keyword
  count := count
  times := none
  spelled := spelled
  digits := digits
  positive := positive
  timed := nofun

def PictureClause.unlinked (keyword format : Text) (spelled : OneOf ["PIC".toList, "PICTURE".toList] keyword)
    (nonempty : format ≠ []) (symbols : format ⊆ pictureSymbols) (unpointed : format.getLast? ≠ some '.') :
    PictureClause where
  keyword := keyword
  linking := none
  format := format
  spelled := spelled
  linked := nofun
  nonempty := nonempty
  symbols := symbols
  unpointed := unpointed

theorem PictureClause.spelled_pic : OneOf ["PIC".toList, "PICTURE".toList] "PIC".toList :=
  ⟨_, List.mem_cons_self, rfl⟩

theorem PictureClause.plain (p : PictureClause) : IsPlain p.format :=
  isPlain_of_symbols p.nonempty p.symbols p.unpointed

-- `USAGE item`. The usages of numbers need no keyword.
structure UsageClause where
  introduction : List Text
  item : Text
  introduced : Phrase [[], ["USAGE".toList], ["USAGE".toList, "IS".toList]] introduction
  plain : IsPlain item
  known : introduction = [] → OneOf storageUsages item

inductive Part
  | value (v : ValueClause)
  | occurs (o : OccursClause)
  | key (k : KeyPhrase)
  | picture (p : PictureClause)
  | usage (u : UsageClause)

namespace Part

inductive Kind
  | value
  | occurs
  | key
  | picture
  | usage
  deriving DecidableEq

def kind : Part → Kind
  | value _ => .value
  | occurs _ => .occurs
  | key _ => .key
  | picture _ => .picture
  | usage _ => .usage

def words : Part → List Text
  | value v => v.keyword :: (v.linking.toList ++ v.literal.words)
  | occurs o => o.keyword :: o.count :: o.times.toList
  | key k => k.introduction ++ [k.name]
  | picture p => p.keyword :: (p.linking.toList ++ [p.format])
  | usage u => u.introduction ++ [u.item]

def text (p : Part) : Text :=
  Text.join [' '] p.words

end Part

theorem OccursClause.count_ne_nil (o : OccursClause) : o.count ≠ [] :=
  fun h => o.positive (h ▸ rfl)

namespace Part

-- The words that only say which clause it is.
def Kind.keywords : Kind → List Text
  | value => ["VALUE".toList, "VALUES".toList, "IS".toList, "ARE".toList]
  | occurs => ["OCCURS".toList, "TIMES".toList]
  | key => ["INDEXED".toList, "BY".toList, "ASCENDING".toList, "DESCENDING".toList, "KEY".toList, "IS".toList]
  | picture => ["PIC".toList, "PICTURE".toList, "IS".toList]
  | usage => ["USAGE".toList, "IS".toList]

-- The words by which the clause is searched for.
def Kind.heads : Kind → List Text
  | value => ["VALUE".toList]
  | occurs => ["OCCURS".toList]
  | key => ["INDEXED".toList, "ASCENDING".toList, "DESCENDING".toList]
  | picture => ["PIC".toList]
  | usage => ["USAGE".toList]

-- The words that say what the clause is about.
def content : Part → List Text
  | value v => v.literal.words
  | occurs o => [o.count]
  | key k => [k.name]
  | picture p => [p.format]
  | usage u => [u.item]

theorem words_ne_nil (p : Part) : p.words ≠ [] := by
  cases p <;> simp [words]

theorem keyword_or_content (p : Part) : ∀ w ∈ p.words, OneOf p.kind.keywords w ∨ w ∈ p.content := by
  intro w hw
  cases p
  case value v =>
    rcases List.mem_cons.mp hw with rfl | hw
    · exact .inl <| v.spelled.mono (by decide : _ ⊆ Kind.value.keywords)
    · rcases List.mem_append.mp hw with hw | hw
      · exact .inl <| (v.linked w (by simpa using hw)).mono (by decide : _ ⊆ Kind.value.keywords)
      · exact .inr hw
  case occurs o =>
    rcases List.mem_cons.mp hw with rfl | hw
    · exact .inl ⟨_, (by decide : _ ∈ Kind.occurs.keywords), o.spelled⟩
    · rcases List.mem_cons.mp hw with rfl | hw
      · exact .inr List.mem_cons_self
      · exact .inl ⟨_, (by decide : _ ∈ Kind.occurs.keywords), o.timed w (by simpa using hw)⟩
  case key k =>
    rcases List.mem_append.mp hw with hw | hw
    · exact .inl <| (k.introduced.oneOf w hw).mono (by decide : _ ⊆ Kind.key.keywords)
    · exact .inr hw
  case picture p =>
    rcases List.mem_cons.mp hw with rfl | hw
    · exact .inl <| p.spelled.mono (by decide : _ ⊆ Kind.picture.keywords)
    · rcases List.mem_append.mp hw with hw | hw
      · exact .inl ⟨_, (by decide : _ ∈ Kind.picture.keywords), p.linked w (by simpa using hw)⟩
      · exact .inr hw
  case usage u =>
    rcases List.mem_append.mp hw with hw | hw
    · exact .inl <| (u.introduced.oneOf w hw).mono (by decide : _ ⊆ Kind.usage.keywords)
    · exact .inr hw

-- Every word is one that the reader of statements has nothing to do with, literals apart.
theorem isToken_or_literal (p : Part) : ∀ w ∈ p.words, IsToken w ∨ ∃ v, p = .value v ∧ w ∈ v.literal.words := by
  have plain : arePlain p.kind.keywords := by cases p.kind <;> rfl
  intro w hw
  rcases p.keyword_or_content w hw with h | h
  case inl => exact .inl (h.isToken plain)
  case inr =>
    cases p
    case value v => exact .inr ⟨v, rfl, h⟩
    case occurs o =>
      rw [List.mem_singleton.mp h]
      exact .inl <| .of_plain o.count_ne_nil fun c hc => isPlainChar_of_isDecimalDigit (o.digits c hc)
    case key k => exact .inl (List.mem_singleton.mp h ▸ k.named.isToken)
    case picture p => exact .inl (List.mem_singleton.mp h ▸ p.plain.toIsToken)
    case usage u => exact .inl (List.mem_singleton.mp h ▸ u.plain.toIsToken)

theorem isPiece (p : Part) : ∀ w ∈ p.words, IsPiece w := by
  intro w hw
  rcases p.isToken_or_literal w hw with h | ⟨v, -, h⟩
  · exact h.isPiece
  · exact v.literal.isPiece w h

-- Only its own reader finds something in a clause, apart from literals and the names of keys.
theorem not_mentions (p : Part) (hv : p.kind ≠ .value) (hk : p.kind ≠ .key) (hw : word ∈ clauseHeads)
    (hn : word ∉ p.kind.heads) : ∀ w ∈ p.words, ¬Clause.Mentions word w := by
  have keywords : ∀ kind ∈ [Kind.occurs, .picture, .usage], ∀ w ∈ clauseHeads, w ∉ kind.heads →
      ∀ k ∈ kind.keywords, ¬Clause.Mentions w k := by decide +kernel
  have kind : p.kind ∈ [Kind.occurs, .picture, .usage] := by
    cases p <;> simp_all [Part.kind]
  intro w hm
  rcases p.keyword_or_content w hm with ⟨k, hk, hs⟩ | h
  case inl => exact Clause.not_mentions_spells (keywords _ kind word hw hn k hk) hs
  case inr =>
    cases p
    case value => contradiction
    case occurs o =>
      rw [List.mem_singleton.mp h]
      have letters : clauseHeads.all fun w => w.any (!isDecimalDigit ·) := rfl
      obtain ⟨l, hl, hd⟩ := List.any_eq_true.mp (List.all_eq_true.mp letters word hw)
      exact Clause.not_mentions_of_lacks hl fun c hc => sameLetter_of_isDecimalDigit (by simpa using hd) (o.digits c hc)
    case key => contradiction
    case picture p => exact List.mem_singleton.mp h ▸ p.plain.mute word hw
    case usage u => exact List.mem_singleton.mp h ▸ u.plain.mute word hw

-- No name of a key is part of the phrase's own words.
theorem not_mentions_introduction (k : KeyPhrase) (hw : word ∈ clauseHeads) (hn : word ∉ Kind.key.heads) :
    ∀ w ∈ k.introduction, ¬Clause.Mentions word w := by
  have keywords : ∀ w ∈ clauseHeads, w ∉ Kind.key.heads → ∀ k ∈ Kind.key.keywords, ¬Clause.Mentions w k := by
    decide +kernel
  intro w hm
  obtain ⟨k, hk, hs⟩ := (k.introduced.oneOf w hm).mono (by decide : _ ⊆ Kind.key.keywords)
  exact Clause.not_mentions_spells (keywords word hw hn k hk) hs

end Part

end Source
end Copybook
