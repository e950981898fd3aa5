import Copybook.Proofs.Except
import Copybook.Proofs.Source.Format
import Copybook.Proofs.Source.Quoted
import Copybook.Proofs.Text.Digits

/-!
A quoted literal is opaque to the reader of statements and to that of clauses: whatever it contains, the statement
around it is read as it would be around any other literal.
-/

namespace Copybook.Source

variable {mark c : Char} {s t : Text} {n : Nat}

theorem meets_doubled {p r : Char → Bool} (hm : isQuote mark) (hp : p mark = false) (t : Text) :
    meets p r (some mark) false (doubled mark t ++ [mark]) = false := by
  induction t
  case nil => rfl
  case cons c t hi =>
    by_cases h : c = mark
    case pos =>
      rw [h, doubled_cons_self, List.cons_append, List.cons_append, meets, openAfter_mark, meets, openAfter_none hm, hp]
      exact hi
    case neg =>
      rw [doubled_cons_of_ne h, List.cons_append, meets, openAfter_of_ne h]
      exact hi

theorem head?_doubled (h : (doubled mark t ++ [mark]).head? = some c) : c = mark ∨ t.head? = some c := by
  cases t
  case nil => exact .inl (Option.some.inj h).symm
  case cons d t =>
    by_cases hd : d = mark
    case pos =>
      rw [hd, doubled_cons_self] at h
      exact .inl (Option.some.inj h).symm
    case neg =>
      rw [doubled_cons_of_ne hd] at h
      exact .inr h

theorem unmarked_doubled (hm : isQuote mark) (h : Unmarked t) : Unmarked (doubled mark t ++ [mark]) := by
  have hs : mark ≠ '*' := ne_of_isQuote hm rfl
  induction t
  case nil => exact List.isChain_singleton _
  case cons c t hi =>
    have ht := hi h.tail
    by_cases hc : c = mark
    case pos =>
      rw [hc, doubled_cons_self]
      exact (ht.cons fun _ _ he => hs he.left).cons fun _ _ he => hs he.left
    case neg =>
      rw [doubled_cons_of_ne hc]
      refine List.IsChain.cons ht fun d hd he => ?_
      rcases head?_doubled hd with rfl | hd
      · exact absurd he.right (ne_of_isQuote hm rfl)
      · exact h.rel_head? hd he

-- A comment mark cuts the line, in a literal too.
theorem dropComment_append (h : Unmarked s) (rest : Text) : dropComment (s ++ '*' :: '>' :: rest) = s := by
  induction s
  case nil => rfl
  case cons c s hi =>
    rw [List.cons_append, dropComment, hi h.tail]
    rintro _ rfl he
    cases s
    case nil => cases he
    case cons d s =>
      cases he
      exact (List.isChain_cons_cons.mp h).left ⟨rfl, rfl⟩

-- The picture of text of that many characters.
def textFormat (n : Nat) : Text :=
  "X(".toList ++ (Text.ofNat n ++ [')'])

def pictureClause (n : Nat) : Text :=
  "PIC ".toList ++ (textFormat n ++ [' '])

-- The statement that declares `A` as text of that many characters, up to its literal.
def textHead (n : Nat) : Text :=
  "05 A ".toList ++ (pictureClause n ++ "VALUE ".toList)

def textItem (mark : Char) (n : Nat) (t : Text) : Text :=
  textHead n ++ quoted mark t

-- A copybook of one line with that statement.
def textSource (mark : Char) (n : Nat) (t : Text) : Text :=
  "01 R. ".toList ++ (textItem mark n t ++ ['.'])

-- The line up to a text in its literal.
def textLine (mark : Char) (n : Nat) (t : Text) : Text :=
  "01 R. ".toList ++ (textHead n ++ mark :: doubled mark t)

-- Whether a character means nothing to the reader of statements, except for blanks.
def isOrdinary (c : Char) : Bool :=
  !isQuote c && c != '.' && c != '*' && !isLineEnd c

-- The characters before a literal are among these, whatever number is in the picture.
theorem textFormat_subset (n : Nat) : textFormat n ⊆ "X(0123456789)".toList := by
  have digits : Text.ofNat n ⊆ "0123456789".toList := by
    intro c hc
    have ⟨d, hd, h⟩ := Text.digit_of_mem_ofNat hc
    have all : ∀ d : Fin 10, Nat.digitChar d ∈ "0123456789".toList := by decide
    exact h ▸ all ⟨d, hd⟩
  exact List.append_subset.mpr ⟨by decide, List.append_subset.mpr ⟨List.Subset.trans digits (by decide), by decide⟩⟩

theorem pictureClause_subset (n : Nat) : pictureClause n ⊆ "PIC X(0123456789)".toList :=
  List.append_subset.mpr ⟨by decide, List.append_subset.mpr
    ⟨List.Subset.trans (textFormat_subset n) (by decide), by decide⟩⟩

theorem textHead_subset (n : Nat) : textHead n ⊆ "05 A PIC X(0123456789) VALUE".toList :=
  List.append_subset.mpr ⟨by decide, List.append_subset.mpr
    ⟨List.Subset.trans (pictureClause_subset n) (by decide), by decide⟩⟩

theorem isOrdinary_of_mem_textHead (h : c ∈ textHead n) : isOrdinary c :=
  List.all_eq_true.mp rfl c (textHead_subset n h)

theorem plain_of_mem_textFormat (h : c ∈ textFormat n) : isBlank c = false ∧ isQuote c = false := by
  have hall : "X(0123456789)".toList.all fun c => !isBlank c && !isQuote c := rfl
  simpa using List.all_eq_true.mp hall c (textFormat_subset n h)

theorem isOrdinary_iff : isOrdinary c ↔ (isQuote c = false ∧ c ≠ '.') ∧ c ≠ '*' ∧ isLineEnd c = false := by
  simp [isOrdinary, and_assoc]

theorem foldl_ordinary (h : ∀ c ∈ s, isOrdinary c) : s.foldl openAfter none = none := by
  induction s
  case nil => rfl
  case cons c s hi =>
    have ⟨hc, h⟩ := List.forall_mem_cons.mp h
    rw [List.foldl_cons, openAfter, (isOrdinary_iff.mp hc).left.left]
    exact hi h

theorem meets_ordinary {r : Char → Bool} (h : ∀ c ∈ s, isOrdinary c) (t : Text) :
    meets (· == '.') r none false (s ++ t) = meets (· == '.') r none false t := by
  induction s
  case nil => rfl
  case cons c s hi =>
    have ⟨hc, h⟩ := List.forall_mem_cons.mp h
    have ⟨⟨hq, hp⟩, _⟩ := isOrdinary_iff.mp hc
    rw [List.cons_append, meets, openAfter, hq, beq_false_of_ne hp]
    exact hi h

theorem textFormat_ne_nil (n : Nat) : textFormat n ≠ [] :=
  nofun

theorem textItem_eq (mark : Char) (n : Nat) (t : Text) :
    textItem mark n t = (textHead n ++ mark :: doubled mark t) ++ [mark] := by
  simp [textItem, quoted]

theorem collapseFrom_textHead (n : Nat) (t : Text) :
    collapseFrom none true (textHead n ++ t) = textHead n ++ collapseFrom none true t := by
  have hl s : collapseFrom none true ("05 A ".toList ++ s) = "05 A ".toList ++ collapseFrom none true s := rfl
  have hp s : collapseFrom none true ("PIC ".toList ++ s) = "PIC ".toList ++ collapseFrom none true s := rfl
  have hb s : collapseFrom none false ([' '] ++ s) = [' '] ++ collapseFrom none true s := rfl
  have hr s : collapseFrom none true ("VALUE ".toList ++ s) = "VALUE ".toList ++ collapseFrom none true s := rfl
  unfold textHead pictureClause
  simp only [List.append_assoc]
  rw [hl, hp, collapseFrom_word (fun _ => plain_of_mem_textFormat) (textFormat_ne_nil n), hb, hr]

theorem textItem_isStatement (hm : isQuote mark) (n : Nat) (t : Text) : IsStatement (textItem mark n t) where
  nonempty := by
    simp [textItem, quoted]
  collapsed := by
    have hq : collapseFrom none true (quoted mark t) = quoted mark t := by
      simpa [collapseFrom] using collapseFrom_quoted hm true t []
    rw [collapse_eq, textItem, collapseFrom_textHead, hq, ←textItem, textItem_eq,
      Text.dropRight_concat_of_neg _ (not_isBlank_of_isQuote hm)]
  balanced := by
    rw [textItem, List.foldl_append, foldl_ordinary fun _ => isOrdinary_of_mem_textHead, quoted, List.foldl_cons,
      openAfter_none hm, foldl_doubled hm]
  undivided := by
    have hp : (mark == '.') = false := beq_false_of_ne (ne_of_isQuote hm rfl)
    rw [textItem, meets_ordinary fun _ => isOrdinary_of_mem_textHead, quoted, meets, openAfter_none hm, hp,
      Bool.and_false]
    exact meets_doubled hm hp t

theorem unmarked_of_ordinary (h : ∀ c ∈ s, isOrdinary c) (ht : Unmarked t) : Unmarked (s ++ t) := by
  induction s
  case nil => exact ht
  case cons c s hi =>
    have ⟨hc, h⟩ := List.forall_mem_cons.mp h
    exact (hi h).cons fun _ _ he => (isOrdinary_iff.mp hc).right.left he.left

theorem unmarked_line (hm : isQuote mark) (ht : Unmarked t) (n : Nat) :
    Unmarked (textHead n ++ mark :: doubled mark t) := by
  have hs : mark ≠ '*' := ne_of_isQuote hm rfl
  refine unmarked_of_ordinary (fun _ => isOrdinary_of_mem_textHead) ?_
  exact (unmarked_doubled hm ht).left_of_append.cons fun _ _ he => hs he.left

theorem not_isLineEnd_of_mem_textItem (hm : isQuote mark) (hl : ∀ c ∈ t, isLineEnd c = false) (n : Nat) :
    ∀ c ∈ textItem mark n t ++ ['.'], isLineEnd c = false := by
  have hq : isLineEnd mark = false := by
    simp only [isQuote, Bool.or_eq_true, beq_iff_eq] at hm
    rcases hm with rfl | rfl <;> decide
  intro c hc
  unfold textItem quoted at hc
  simp only [List.mem_append, List.mem_cons, List.not_mem_nil, or_false, mem_doubled] at hc
  rcases hc with (hc | rfl | hc | rfl) | rfl
  · exact (isOrdinary_iff.mp (isOrdinary_of_mem_textHead hc)).right.right
  · exact hq
  · exact hl c hc
  · exact hq
  · decide

-- A line that begins with the record is read up to its comment.
theorem statements_of_line (h : ∀ c ∈ s, isLineEnd c = false) :
    statements ("01 R. ".toList ++ s) = statementsIn ("01 R. ".toList ++ dropComment s) := by
  have hl : ∀ c ∈ "01 R. ".toList ++ s, isLineEnd c = false := by
    intro c hc
    rcases List.mem_append.mp hc with hc | hc
    · simpa using List.all_eq_true.mp (rfl : "01 R. ".toList.all (!isLineEnd ·)) c hc
    · exact h c hc
  have hc : columnsCode? ("01 R. ".toList ++ s) = some ("01 R. ".toList ++ s) :=
    @columnsCode?_of_level "01".toList ("R. ".toList ++ s) (.inr rfl) (List.all_eq_true.mp rfl)
  have hd : dropComment ("01 R. ".toList ++ s) = "01 R. ".toList ++ dropComment s := by
    simp [dropComment]
  have hh : (Text.stripLeft (dropComment ("01 R. ".toList ++ s))).head? ≠ some '*' := by
    rw [hd]
    simp [Text.stripLeft, isBlank]
  rw [statements_eq, code, Text.lines_of_line hl (by simp), List.filterMap_cons, code?_of_columnsCode? hc hh, hd]
  rfl

theorem statements_textSource (hm : isQuote mark) (hl : ∀ c ∈ t, isLineEnd c = false) (ht : Unmarked t) (n : Nat) :
    statements (textSource mark n t) = ["01 R".toList, textItem mark n t] := by
  have hu : Unmarked (textItem mark n t ++ ['.']) := by
    rw [textItem_eq, List.append_assoc]
    exact (unmarked_append_cons (ne_of_isQuote hm rfl) (ne_of_isQuote hm rfl)).mpr
      ⟨unmarked_line hm ht n, List.isChain_singleton _⟩
  have hs : ∀ s ∈ ["01 R".toList, textItem mark n t], IsStatement s :=
    List.forall_mem_cons.mpr ⟨⟨nofun, by decide +kernel, rfl, rfl⟩,
      List.forall_mem_singleton.mpr (textItem_isStatement hm n t)⟩
  calc statements (textSource mark n t)
    _ = statementsIn ("01 R. ".toList ++ dropComment (textItem mark n t ++ ['.'])) :=
      statements_of_line (not_isLineEnd_of_mem_textItem hm hl n)
    _ = statementsIn ("01 R. ".toList ++ (textItem mark n t ++ ['.'])) := by rw [dropComment_of_unmarked hu]
    _ = ["01 R".toList, textItem mark n t] := statementsIn_join hs

-- What stands after a comment mark makes no difference, even if the mark is in the literal.
theorem statements_textSource_of_mark (hm : isQuote mark) (hl : ∀ c ∈ t, isLineEnd c = false) (ht : Unmarked t)
    {rest : Text} (hr : ∀ c ∈ rest, isLineEnd c = false) (n : Nat) :
    statements (textSource mark n (t ++ '*' :: '>' :: rest)) = statements (textLine mark n t) := by
  have hall : ∀ c ∈ t ++ '*' :: '>' :: rest, isLineEnd c = false := by
    simpa [or_imp, forall_and, show isLineEnd '*' = false from by decide,
      show isLineEnd '>' = false from by decide] using ⟨hl, hr⟩
  have hu := unmarked_line hm ht n
  have hline : ∀ c ∈ textHead n ++ mark :: doubled mark t, isLineEnd c = false := by
    intro c hc
    apply not_isLineEnd_of_mem_textItem hm hl n
    simp only [textItem, quoted, List.mem_append, List.mem_cons] at hc ⊢
    tauto
  have hd : doubled mark (t ++ '*' :: '>' :: rest) = doubled mark t ++ '*' :: '>' :: doubled mark rest := by
    rw [doubled_append, doubled_cons_of_ne (ne_of_isQuote hm rfl).symm, doubled_cons_of_ne (ne_of_isQuote hm rfl).symm]
  have hi : textItem mark n (t ++ '*' :: '>' :: rest) ++ ['.'] =
      (textHead n ++ mark :: doubled mark t) ++ '*' :: '>' :: (doubled mark rest ++ [mark, '.']) := by
    simp [textItem, quoted, hd]
  have hc : dropComment (textItem mark n (t ++ '*' :: '>' :: rest) ++ ['.']) =
      dropComment (textHead n ++ mark :: doubled mark t) := by
    rw [hi, dropComment_append hu, dropComment_of_unmarked hu]
  exact (statements_of_line (not_isLineEnd_of_mem_textItem hm hall n)).trans
    ((congrArg (fun s => statementsIn ("01 R. ".toList ++ s)) hc).trans (statements_of_line hline).symm)

namespace Clause

-- A literal is taken as a whole.
theorem literal?_quoted (hm : isQuote mark) (t : Text) : literal? (quoted mark t) = some (quoted mark t, []) := by
  have hq : mark = '\'' ∨ mark = '"' := by simpa [isQuote] using hm
  have ha : phrase? "ALL".toList (quoted mark t) = none := by
    rcases hq with rfl | rfl <;> rfl
  have hs : simpleLiteral? (quoted mark t) = some [] := by
    rw [quoted, simpleLiteral?, if_pos hq, closeQuote_doubled (by simp)]
  rw [literal?, ha, hs]
  simp [taken]

-- A reader that never begins with a character.
def Rejects {α : Type} (read : Option Char → Text → Option α) (c : Char) : Prop :=
  ∀ before s, read before (c :: s) = none

section Search

variable {α : Type} {read : Option Char → Text → Option (α × Text)}

-- A clause is searched for after the places that cannot begin with it.
theorem search_append (h : ∀ c ∈ s, Rejects read c) (before : Option Char) (t : Text) :
    search read before (s ++ t) = (search read (s.foldl (fun _ c => some c) before) t).map fun found =>
      { found with before := s ++ found.before } := by
  induction s generalizing before
  case nil => simp
  case cons c s hi =>
    have ⟨hc, h⟩ := List.forall_mem_cons.mp h
    rw [List.cons_append, search, hc, hi h]
    simp [Function.comp_def]

theorem search_of_rejects (h : ∀ c ∈ s, Rejects read c) (hn : ∀ before, read before [] = none) (before : Option Char) :
    search read before s = none := by
  rw [←List.append_nil s, search_append h, search, hn]
  rfl

end Search

theorem value?_rejects (h : sameLetter 'V' c = false) : Rejects value? c := by
  intro before s
  simp [value?, keyword?, h]

theorem dependingOn?_rejects (h : sameLetter 'D' c = false) : Rejects dependingOn? c := by
  intro before s
  simp [dependingOn?, phrase?, keyword?, h]

theorem occurs?_rejects (h : sameLetter 'O' c = false) : Rejects occurs? c := by
  intro before s
  simp [occurs?, phrase?, keyword?, h]

end Clause

-- No other clause begins in that of a picture of text.
theorem rejected_of_mem_pictureClause (h : c ∈ pictureClause n) :
    sameLetter 'V' c = false ∧ sameLetter 'D' c = false ∧ sameLetter 'O' c = false := by
  have hall : "PIC X(0123456789)".toList.all fun c =>
    !sameLetter 'V' c && !sameLetter 'D' c && !sameLetter 'O' c := rfl
  simpa [and_assoc] using List.all_eq_true.mp hall c (pictureClause_subset n h)

theorem value?_quoted (hm : isQuote mark) (t : Text) :
    Clause.value? (some ' ') ("VALUE ".toList ++ quoted mark t) = some (quoted mark t, []) := by
  have hk : Clause.keyword? "VALUE".toList ("VALUE ".toList ++ quoted mark t) = some (' ' :: quoted mark t) := rfl
  have hs : (Clause.keyword? "S".toList (' ' :: quoted mark t)).getD (' ' :: quoted mark t) = ' ' :: quoted mark t :=
    rfl
  have hw : Clause.wordBegins (some ' ') = true := by decide
  have hb : Clause.blanks? (' ' :: quoted mark t) = some (quoted mark t) := by
    simp [Clause.blanks?, quoted, not_isBlank_of_isQuote hm, show isBlank ' ' from by decide]
  have ⟨hi, ha⟩ : Clause.phrase? "IS".toList (quoted mark t) = none ∧
      Clause.phrase? "ARE".toList (quoted mark t) = none := by
    simp only [isQuote, Bool.or_eq_true, beq_iff_eq] at hm
    rcases hm with rfl | rfl <;> exact ⟨rfl, rfl⟩
  rw [Clause.value?, hw, hk]
  simp only [Option.bind_eq_bind, Option.bind_some, hs, hb, hi, ha, Clause.literal?_quoted hm]
  rfl

theorem valueIn_quoted (hm : isQuote mark) (n : Nat) (t : Text) :
    valueIn (pictureClause n ++ ("VALUE ".toList ++ quoted mark t)) = (some (quoted mark t), pictureClause n) := by
  have hb : (pictureClause n).foldl (fun _ c => some c) none = some ' ' := by
    simp [pictureClause]
  have hs : Clause.search Clause.value? (some ' ') ("VALUE ".toList ++ quoted mark t) =
      some ⟨[], quoted mark t, []⟩ := by
    have hv := value?_quoted hm t
    change Clause.value? (some ' ') ('V' :: ("ALUE ".toList ++ quoted mark t)) = _ at hv
    change Clause.search Clause.value? (some ' ') ('V' :: ("ALUE ".toList ++ quoted mark t)) = _
    rw [Clause.search, hv]
  rw [valueIn, Clause.search_append fun c hc => Clause.value?_rejects (rejected_of_mem_pictureClause hc).left, hb, hs]
  simp [Clause.Found.others]

theorem occursIn_pictureClause (n : Nat) : occursIn (pictureClause n) = .ok (none, pictureClause n) := by
  have hd : Clause.search Clause.dependingOn? none (pictureClause n) = none :=
    Clause.search_of_rejects
      (fun c hc => Clause.dependingOn?_rejects (rejected_of_mem_pictureClause hc).right.left) (fun before => by
        simp [Clause.dependingOn?, Clause.phrase?, Clause.keyword?]) _
  have ho : Clause.search Clause.occurs? none (pictureClause n) = none :=
    Clause.search_of_rejects
      (fun c hc => Clause.occurs?_rejects (rejected_of_mem_pictureClause hc).right.right) (fun before => by
        simp [Clause.occurs?, Clause.phrase?, Clause.keyword?]) _
  rw [occursIn, hd, ho]
  rfl

theorem upper_textFormat (n : Nat) : (textFormat n).upper = textFormat n := by
  have hall : "X(0123456789)".toList.all fun c => upperChar c == [c] := rfl
  have hupper : ∀ c ∈ textFormat n, upperChar c = [c] := fun c hc =>
    eq_of_beq (List.all_eq_true.mp hall c (textFormat_subset n hc))
  rw [Text.upper, List.flatMap_congr hupper, List.flatMap_singleton']

theorem pictureIn_pictureClause (n : Nat) : pictureIn (pictureClause n) = .ok (some (textFormat n)) := by
  have hk : Clause.keyword? "PIC".toList (pictureClause n) = some (' ' :: (textFormat n ++ [' '])) := rfl
  have hs : (Clause.keyword? "TURE".toList (' ' :: (textFormat n ++ [' ']))).getD (' ' :: (textFormat n ++ [' '])) =
      ' ' :: (textFormat n ++ [' ']) := rfl
  have hb : Clause.blanks? (' ' :: (textFormat n ++ [' '])) = some (textFormat n ++ [' ']) := rfl
  have hi : Clause.phrase? "IS".toList (textFormat n ++ [' ']) = none := rfl
  have hall : ∀ c ∈ textFormat n, !isBlank c := fun c hc => by simp [(plain_of_mem_textFormat hc).left]
  have hw : Clause.word? (textFormat n ++ [' ']) = some (textFormat n, [' ']) := by
    rw [Clause.word?, List.takeWhile_append_of_pos hall, List.dropWhile_append_of_pos hall]
    simp [textFormat, isBlank]
  have hp : Clause.picture? none (pictureClause n) = some (textFormat n, [' ']) := by
    rw [Clause.picture?, hk]
    simp only [Option.bind_eq_bind, Option.bind_some, hs, hb, hi, hw]
    rfl
  have hf : Clause.search Clause.picture? none (pictureClause n) = some ⟨[], textFormat n, [' ']⟩ := by
    change Clause.picture? none ('P' :: ("IC ".toList ++ (textFormat n ++ [' ']))) = _ at hp
    change Clause.search Clause.picture? none ('P' :: ("IC ".toList ++ (textFormat n ++ [' ']))) = _
    rw [Clause.search, hp]
  have hu : Clause.search Clause.usage? none [' '] = none := rfl
  rw [pictureIn, hf]
  simp only [upper_textFormat, Clause.Found.others, List.nil_append, hu]
  rfl

theorem header?_textItem (hm : isQuote mark) (hl : ∀ c ∈ t, isLineEnd c = false) (n : Nat) :
    header? (textItem mark n t) = some (5, "A".toList, pictureClause n ++ ("VALUE ".toList ++ quoted mark t)) := by
  have he : textItem mark n t = "05 A ".toList ++ (pictureClause n ++ ("VALUE ".toList ++ quoted mark t)) := by
    unfold textItem textHead
    simp only [List.append_assoc]
  have hd (s : Text) : Clause.digits? ("05 A ".toList ++ s) = some ("05".toList, " A ".toList ++ s) := rfl
  have hb (s : Text) : Clause.blanks? (" A ".toList ++ s) = some ("A ".toList ++ s) := rfl
  have ht (s : Text) : ("A ".toList ++ s).takeWhile isNameChar = "A".toList := rfl
  have hr (s : Text) : ("A ".toList ++ s).dropWhile isNameChar = ' ' :: s := rfl
  have hc : Clause.blanks? (' ' :: (pictureClause n ++ ("VALUE ".toList ++ quoted mark t))) =
    some (pictureClause n ++ ("VALUE ".toList ++ quoted mark t)) := rfl
  have hn : ∀ c ∈ pictureClause n ++ ("VALUE ".toList ++ quoted mark t), c != '\n' := by
    intro c hc
    have hc := not_isLineEnd_of_mem_textItem hm hl n c <|
      List.mem_append_left _ (he ▸ List.mem_append_right _ hc)
    exact bne_iff_ne.mpr fun h => absurd (h ▸ hc) (by decide)
  have ho : onlyLine? (pictureClause n ++ ("VALUE ".toList ++ quoted mark t)) =
      some (pictureClause n ++ ("VALUE ".toList ++ quoted mark t)) := by
    rw [onlyLine?, List.takeWhile_eq_self_iff.mpr hn, List.dropWhile_eq_nil_iff.mpr hn]
    rfl
  rw [header?, he, hd]
  simp only [Option.bind_eq_bind, Option.bind_some, hb, ht, hr, hc, ho]
  rfl

theorem clauses_quoted (hm : isQuote mark) (n : Nat) (t : Text) :
    clauses (pictureClause n ++ ("VALUE ".toList ++ quoted mark t)) =
      .ok ⟨none, some (quoted mark t), none, some (textFormat n)⟩ := by
  have hr : redefinesIn (pictureClause n ++ ("VALUE ".toList ++ quoted mark t)) =
    (none, pictureClause n ++ ("VALUE ".toList ++ quoted mark t)) := rfl
  rw [clauses, hr]
  simp only [valueIn_quoted hm, occursIn_pictureClause, pictureIn_pictureClause, ok_bind]
  rfl

-- What is declared is the literal itself, whatever is in it.
theorem declare_textItem (hm : isQuote mark) (hl : ∀ c ∈ t, isLineEnd c = false) (n : Nat) :
    declare (textItem mark n t) = .ok (5, "A".toList, ⟨none, some (quoted mark t), none, some (textFormat n)⟩) := by
  have hp : (mark == '.') = false := beq_false_of_ne (ne_of_isQuote hm rfl)
  have hd : Text.dropRight (· == '.') (textItem mark n t) = textItem mark n t := by
    rw [textItem_eq, Text.dropRight_concat_of_neg (p := (· == '.')) _ hp]
  have hf (s : Text) : nameOrFiller "A".toList s = ("A".toList, s) := rfl
  rw [declare, (textItem_isStatement hm n t).collapsed, hd, header?_textItem hm hl]
  simp only [hf, clauses_quoted hm]
  rfl

end Copybook.Source
