import Copybook.Layout.Placement
import Copybook.Proofs.Source.Statement
import Copybook.Proofs.Text.Lines

/-!
The format of a source makes no difference: statements on lines of their own are read as the same statements in
columns, wherever they are wrapped and whatever comments and identifications stand around them.
-/

namespace Copybook

namespace Text

-- What holds of a text exactly if it holds of what is before a space and of what is after it, holds of joined texts
-- exactly if it holds of each.
theorem join_iff {P : Text → Prop} {pieces : List Text} (hn : P [])
    (h : ∀ s ∈ pieces, ∀ t, P (s ++ ' ' :: t) ↔ P s ∧ P t) : P (join [' '] pieces) ↔ ∀ s ∈ pieces, P s := by
  induction pieces
  case nil => simp [join, hn]
  case cons s pieces hi =>
    obtain ⟨hs, hss⟩ := List.forall_mem_cons.mp h
    specialize hi hss
    cases pieces
    case nil => simp [join]
    case cons t pieces => rw [join, List.append_assoc, List.singleton_append, hs, hi, List.forall_mem_cons (a := s)]

end Text

theorem isBlank_of_isDecimalDigit {c : Char} (h : isDecimalDigit c) : isBlank c = false := by
  have ⟨d, hd⟩ := Option.isSome_iff_exists.mp h
  have ⟨start, hs, _⟩ := Option.map_eq_some_iff.mp hd
  have hm := List.mem_of_find?_eq_some hs
  have hr := List.find?_some hs
  have all : ∀ z ∈ zeroDigits, ∀ d < 10, isBlank (Char.ofNat (z + d)) = false := by decide +kernel
  simp only [Bool.and_eq_true, decide_eq_true_eq] at hr
  have ha := all start hm (c.toNat - start) (by omega)
  rw [Nat.add_sub_cancel' hr.left, Char.ofNat_toNat] at ha
  exact ha

namespace Source

variable {c : Char} {s t : Text} {statements pieces : List Text}

-- No comment begins in the text.
def Unmarked (s : Text) : Prop :=
  s.IsChain fun c d => ¬(c = '*' ∧ d = '>')

instance : Decidable (Unmarked s) :=
  inferInstanceAs <| Decidable <| s.IsChain fun c d => ¬(c = '*' ∧ d = '>')

theorem unmarked_append_cons (hm : c ≠ '*') (hc : c ≠ '>') : Unmarked (s ++ c :: t) ↔ Unmarked s ∧ Unmarked t := by
  refine ⟨fun h => ⟨h.left_of_append, h.right_of_append.tail⟩, fun ⟨hs, ht⟩ => ?_⟩
  refine List.IsChain.append hs (List.IsChain.cons ht fun _ _ he => hm he.left) fun _ _ d hd he => ?_
  exact hc <| (Option.some.inj hd).trans he.right

theorem dropComment_of_unmarked (h : Unmarked s) : dropComment s = s := by
  fun_induction dropComment s
  case case1 => rfl
  case case2 => exact absurd ⟨rfl, rfl⟩ (List.isChain_cons_cons.mp h).left
  case case3 c s _ hi => rw [hi h.tail]

theorem code?_of_columnsCode? (hc : columnsCode? s = some t)
    (hh : (Text.stripLeft (dropComment t)).head? ≠ some '*') : code? s = some (dropComment t) := by
  rw [code?, hc]
  exact if_neg hh

-- Outside literals, `*` stands neither at the start nor right after a blank.
def Unstarred (s : Text) : Prop :=
  meets isBlank (· == '*') none true s = false

instance : Decidable (Unstarred s) :=
  inferInstanceAs <| Decidable <| _ = _

theorem unstarred_append_cons (hs : s.foldl openAfter none = none) (hc : isBlank c) :
    Unstarred (s ++ c :: t) ↔ Unstarred s ∧ Unstarred t := by
  have hne : (c == '*') = false := beq_false_of_ne fun he => absurd (he ▸ hc) (by decide)
  rw [Unstarred, meets_append_cons (r := (· == '*')) hne, hs, openAfter_of_isBlank hc, hc, Bool.or_eq_false_iff]
  rfl

theorem Unstarred.head (h : Unstarred s) : (Text.stripLeft s).head? ≠ some '*' := by
  unfold Text.stripLeft
  induction s
  case nil => simp
  case cons c s hi =>
    have ⟨hne, hs⟩ := Bool.or_eq_false_iff.mp (show (true && c == '*' || _) = false from h)
    cases hc : isBlank c
    case true =>
      rw [List.dropWhile_cons_of_pos hc]
      rw [openAfter_of_isBlank hc, hc] at hs
      exact hi hs
    case false =>
      rw [List.dropWhile_cons_of_neg (by simp [hc])]
      simpa using hne

-- A text that no comment begins in, and that a line may begin with.
structure IsCode (s : Text) : Prop where
  balanced : s.foldl openAfter none = none
  unmarked : Unmarked s
  unstarred : Unstarred s

namespace IsCode

theorem nil : IsCode [] where
  balanced := rfl
  unmarked := List.isChain_nil
  unstarred := rfl

theorem append_blank_iff (hs : s.foldl openAfter none = none) (hc : isBlank c) :
    IsCode (s ++ c :: t) ↔ IsCode s ∧ IsCode t := by
  have hb : (s ++ c :: t).foldl openAfter none = t.foldl openAfter none := by
    rw [List.foldl_append, hs, List.foldl_cons, openAfter_of_isBlank hc]
  have hm : c ≠ '*' := fun he => absurd (he ▸ hc) (by decide)
  have hg : c ≠ '>' := fun he => absurd (he ▸ hc) (by decide)
  refine ⟨fun h => ?_, fun ⟨h, k⟩ => ?_⟩
  · have ⟨hms, hmt⟩ := (unmarked_append_cons hm hg).mp h.unmarked
    have ⟨hus, hut⟩ := (unstarred_append_cons hs hc).mp h.unstarred
    exact ⟨⟨hs, hms, hus⟩, hb ▸ h.balanced, hmt, hut⟩
  · exact ⟨hb.trans k.balanced, (unmarked_append_cons hm hg).mpr ⟨h.unmarked, k.unmarked⟩,
      (unstarred_append_cons hs hc).mpr ⟨h.unstarred, k.unstarred⟩⟩

theorem append_period (h : IsCode s) : IsCode (s ++ ['.']) where
  balanced := by
    rw [List.foldl_append, h.balanced]
    rfl
  unmarked := (unmarked_append_cons (by decide) (by decide)).mpr ⟨h.unmarked, List.isChain_nil⟩
  unstarred := by
    rw [Unstarred, meets_append_cons (by decide), show meets isBlank _ none true s = false from h.unstarred]
    rfl

theorem blanks_append {b : Text} (hb : ∀ c ∈ b, isBlank c) (h : IsCode s) : IsCode (b ++ s) := by
  induction b
  case nil => exact h
  case cons c b hi =>
    have ⟨hc, hb⟩ := List.forall_mem_cons.mp hb
    exact (append_blank_iff (s := []) rfl hc).mpr ⟨nil, hi hb⟩

theorem append_blanks {b : Text} (hb : ∀ c ∈ b, isBlank c) (h : IsCode s) : IsCode (s ++ b) := by
  cases b
  case nil => rwa [List.append_nil]
  case cons c b =>
    have ⟨hc, hb⟩ := List.forall_mem_cons.mp hb
    have hn : IsCode b := by simpa using blanks_append hb nil
    exact (append_blank_iff h.balanced hc).mpr ⟨h, hn⟩

theorem join_iff (hb : ∀ s ∈ pieces, s.foldl openAfter none = none) :
    IsCode (Text.join [' '] pieces) ↔ ∀ s ∈ pieces, IsCode s :=
  Text.join_iff nil fun s hs _ => append_blank_iff (hb s hs) (by decide)

-- Such a text is all that a line is read as.
theorem code?_eq (h : IsCode t) (hc : columnsCode? s = some t) : code? s = some t := by
  have hd := dropComment_of_unmarked h.unmarked
  rw [code?_of_columnsCode? hc (hd.symm ▸ h.unstarred.head), hd]

end IsCode

-- A statement that begins with a level and may be a line of its own.
structure IsTidy (s : Text) : Prop extends IsStatement s, IsCode s where
  leveled : ∃ level rest, s = level ++ ' ' :: rest ∧ (level.length = 1 ∨ level.length = 2) ∧
    ∀ c ∈ level, isDecimalDigit c

-- No columns are taken off a line that begins with a level.
theorem columnsCode?_of_level {level rest : Text} (hl : level.length = 1 ∨ level.length = 2)
    (hd : ∀ c ∈ level, isDecimalDigit c) :
    columnsCode? (level ++ ' ' :: rest) = some (level ++ ' ' :: rest) := by
  have hmem : ' ' ∈ (level ++ ' ' :: rest).take 6 := by
    rw [List.take_append, List.take_of_length_le (by omega)]
    have ⟨k, hk⟩ : ∃ k, 6 - level.length = k + 1 := ⟨5 - level.length, by omega⟩
    simp [hk]
  have hhead : ∃ c ∈ (level ++ ' ' :: rest).take 6, isBlank c = false := by
    cases level
    case nil => simp at hl
    case cons c level => exact ⟨c, by simp, isBlank_of_isDecimalDigit (hd c List.mem_cons_self)⟩
  have hn : ((level ++ ' ' :: rest).take 6).all isAnyDigit = false :=
    List.all_eq_false.mpr ⟨' ', hmem, by decide⟩
  have hb : ((level ++ ' ' :: rest).take 6).all isBlank = false :=
    have ⟨c, hc, h⟩ := hhead
    List.all_eq_false.mpr ⟨c, hc, by simp [h]⟩
  rw [columnsCode?]
  split
  case h_1 => rfl
  case h_2 => simp [hn, hb]

theorem IsTidy.code?_line (h : IsTidy s) : code? (s ++ ['.']) = some (s ++ ['.']) := by
  have ⟨level, rest, hs, hl, hd⟩ := h.leveled
  refine h.toIsCode.append_period.code?_eq ?_
  rw [hs, List.append_assoc, List.cons_append]
  exact columnsCode?_of_level hl hd

-- A line in columns that holds a piece of the code.
structure CodeRow where
  number : Text
  indent : Text
  piece : Text
  fill : Text
  identification : Text
  length_number : number.length = 6
  numbered : ∀ c ∈ number, isAnyDigit c
  indented : ∀ c ∈ indent, isBlank c
  filled : ∀ c ∈ fill, isBlank c
  balanced : piece.foldl openAfter none = none
  fits : (indent ++ piece ++ fill).length ≤ 65
  identified : identification ≠ [] → (indent ++ piece ++ fill).length = 65

-- A line in columns that the indicator makes a comment.
structure CommentRow where
  area : Text
  mark : Char
  text : Text
  length_area : area.length = 6
  blank : (∀ c ∈ area, isAnyDigit c) ∨ ∀ c ∈ area, isBlank c
  marked : mark = '*' ∨ mark = '/'

inductive Row
  | code (r : CodeRow)
  | comment (r : CommentRow)

namespace Row

def text : Row → Text
  | code r => r.number ++ ' ' :: (r.indent ++ r.piece ++ r.fill ++ r.identification)
  | comment r => r.area ++ r.mark :: r.text

def piece? : Row → Option Text
  | code r => some r.piece
  | comment _ => none

theorem code?_of_code (r : CodeRow) (h : IsCode r.piece) :
    code? (code r).text = some (' ' :: (r.indent ++ r.piece ++ r.fill)) := by
  have hs : isBlank ' ' := by decide
  have hb : ∀ c ∈ [' '], isBlank c := by simpa using hs
  refine (((h.blanks_append r.indented).append_blanks r.filled).blanks_append hb).code?_eq ?_
  have hn : r.number.all isAnyDigit := List.all_eq_true.mpr r.numbered
  have hc : (r.indent ++ r.piece ++ r.fill ++ r.identification).take 65 = r.indent ++ r.piece ++ r.fill := by
    by_cases hi : r.identification = []
    case pos => rw [hi, List.append_nil, List.take_of_length_le r.fits]
    case neg => rw [List.take_left' (r.identified hi)]
  rw [columnsCode?, text, List.take_left' r.length_number, List.drop_left' r.length_number]
  simp only [hn, hc, Bool.true_or, if_true]
  rfl

theorem code?_of_comment (r : CommentRow) : code? (comment r).text = none := by
  have hn : (r.area.all isAnyDigit || r.area.all isBlank) = true := by
    simpa [List.all_eq_true] using r.blank
  have hcode : columnsCode? (comment r).text = none := by
    rw [columnsCode?, text, List.take_left' r.length_area, List.drop_left' r.length_area]
    simp [hn, r.marked]
  rw [code?, hcode]
  rfl

-- The code of lines in columns is the pieces that they hold.
theorem holds {rows : List Row} (h : ∀ p ∈ rows.filterMap piece?, IsCode p) :
    List.Forall₂ Holds ((rows.map text).filterMap code?) (rows.filterMap piece?) := by
  induction rows
  case nil => exact .nil
  case cons r rows hi =>
    cases r
    case comment r =>
      rw [List.map_cons, List.filterMap_cons_none (code?_of_comment r), List.filterMap_cons_none rfl]
      exact hi h
    case code r =>
      rw [List.filterMap_cons_some (f := piece?) (b := r.piece) rfl, List.forall_mem_cons] at h
      rw [List.map_cons, List.filterMap_cons_some (code?_of_code r h.left),
        List.filterMap_cons_some (f := piece?) (b := r.piece) rfl]
      refine .cons ⟨⟨' ' :: r.indent, r.fill, ?_, r.filled, rfl⟩, r.balanced⟩ (hi h.right)
      exact List.forall_mem_cons.mpr ⟨by decide, r.indented⟩

end Row

-- The rows hold the statements, each with its period, wrapped at spaces.
def Wraps (rows : List Row) (statements : List Text) : Prop :=
  Text.join [' '] (rows.filterMap Row.piece?) = Text.join [' '] (statements.map (· ++ ['.']))

-- The statements of a source are those that its lines hold.
theorem statements_of_holds {source : Text} (hs : ∀ s ∈ statements, IsStatement s)
    (hl : List.Forall₂ Holds (source.lines.filterMap code?) pieces)
    (hp : Text.join [' '] pieces = Text.join [' '] (statements.map (· ++ ['.']))) :
    Source.statements source = statements := by
  rw [statements_eq, code, ←statementsIn_collapse, collapse_join hl, statementsIn_collapse, hp, statementsIn_join hs]

theorem statements_of_lines {source : Text} (hs : ∀ s ∈ statements, IsTidy s)
    (hl : source.lines = statements.map (· ++ ['.'])) : Source.statements source = statements := by
  refine statements_of_holds (fun s h => (hs s h).toIsStatement) ?_ rfl
  rw [hl]
  clear hl
  induction statements
  case nil => exact .nil
  case cons s statements hi =>
    have ⟨h, hss⟩ := List.forall_mem_cons.mp hs
    rw [List.map_cons, List.filterMap_cons_some h.code?_line]
    exact .cons ⟨⟨[], [], nofun, nofun, by simp⟩, h.toIsCode.append_period.balanced⟩ (hi hss)

theorem statements_of_rows {source : Text} {rows : List Row} (hs : ∀ s ∈ statements, IsTidy s)
    (hw : Wraps rows statements) (hl : source.lines = rows.map Row.text) : Source.statements source = statements := by
  refine statements_of_holds (fun s h => (hs s h).toIsStatement) ?_ hw
  rw [hl]
  apply Row.holds
  have hb : ∀ p ∈ rows.filterMap Row.piece?, p.foldl openAfter none = none := by
    intro p hp
    have ⟨row, hm, hr⟩ := List.mem_filterMap.mp hp
    clear hm
    cases row
    case code r => exact Option.some.inj hr ▸ r.balanced
    case comment => contradiction
  have hc : ∀ t ∈ statements.map (· ++ ['.']), IsCode t := by
    intro t ht
    have ⟨s, hm, he⟩ := List.mem_map.mp ht
    exact he ▸ (hs s hm).toIsCode.append_period
  rw [←IsCode.join_iff hb, show _ = _ from hw]
  exact (IsCode.join_iff fun t ht => (hc t ht).balanced).mpr hc

-- A source in columns is read as the same statements, and compiled to the same layout, as the statements on lines of
-- their own.
theorem format_irrelevant {free fixed : Text} {rows : List Row} (hs : ∀ s ∈ statements, IsTidy s)
    (hfree : free.lines = statements.map (· ++ ['.'])) (hw : Wraps rows statements)
    (hfixed : fixed.lines = rows.map Row.text) (codec : Codec) :
    Source.statements free = statements ∧ Source.statements fixed = statements ∧ read free = read fixed ∧
      Layout.compile free codec = Layout.compile fixed codec := by
  have hl := statements_of_lines hs hfree
  have hr := statements_of_rows hs hw hfixed
  refine ⟨hl, hr, ?_, ?_⟩
  · rw [read, read, hl, hr]
  · rw [Layout.compile, Layout.compile, hl, hr]

def sampleStatements : List Text :=
  ["01 R".toList, "05 A PIC X(4) VALUE 'a. b'".toList]

-- The second statement goes on after a comment, and a period stands in the identification area.
def sampleRows : List Row := [
    .code {
      number := "000100".toList, indent := [], piece := "01 R.".toList, fill := [], identification := []
      length_number := rfl, numbered := List.all_eq_true.mp rfl, indented := nofun, filled := nofun, balanced := rfl
      fits := by decide, identified := nofun },
    .code {
      number := "000200".toList, indent := "  ".toList, piece := "05 A PIC X(4)".toList, fill := List.replicate 50 ' '
      identification := "R. '001".toList
      length_number := rfl, numbered := List.all_eq_true.mp rfl
      indented := List.all_eq_true.mp rfl, filled := List.all_eq_true.mp rfl
      balanced := rfl, fits := by decide, identified := fun _ => rfl },
    .comment {
      area := "      ".toList, mark := '*', text := " it's so. ".toList
      length_area := rfl, blank := .inr (List.all_eq_true.mp rfl), marked := .inl rfl },
    .code {
      number := "000300".toList, indent := "    ".toList, piece := "VALUE 'a. b'.".toList, fill := " ".toList
      identification := []
      length_number := rfl, numbered := List.all_eq_true.mp rfl
      indented := List.all_eq_true.mp rfl, filled := List.all_eq_true.mp rfl
      balanced := rfl, fits := by decide, identified := nofun }]

theorem sampleStatements_tidy : ∀ s ∈ sampleStatements, IsTidy s := by
  refine List.forall_mem_cons.mpr ⟨?_, List.forall_mem_singleton.mpr ?_⟩
  · exact { nonempty := nofun, collapsed := by decide +kernel, balanced := rfl, undivided := rfl
            unmarked := by decide +kernel, unstarred := by decide +kernel
            leveled := ⟨"01".toList, "R".toList, rfl, .inr rfl, List.all_eq_true.mp rfl⟩ }
  · exact { nonempty := nofun, collapsed := by decide +kernel, balanced := rfl, undivided := rfl
            unmarked := by decide +kernel, unstarred := by decide +kernel
            leveled := ⟨"05".toList, "A PIC X(4) VALUE 'a. b'".toList, rfl, .inr rfl, List.all_eq_true.mp rfl⟩ }

theorem sample_format_irrelevant :
    let free := Text.unlines (sampleStatements.map (· ++ ['.']))
    let fixed := Text.unlines (sampleRows.map Row.text)
    (∀ s ∈ sampleStatements, IsTidy s) ∧ Wraps sampleRows sampleStatements ∧ Source.statements free = sampleStatements ∧
      Source.statements fixed = sampleStatements ∧ read free = read fixed ∧
      Layout.compile free {} = Layout.compile fixed {} := by
  have hw : Wraps sampleRows sampleStatements := rfl
  have hl {lines : List Text} (h : lines.all (·.all (!isLineEnd ·))) : (Text.unlines lines).lines = lines :=
    Text.lines_unlines (by simpa using h)
  exact ⟨sampleStatements_tidy, hw, format_irrelevant sampleStatements_tidy (hl rfl) hw (hl rfl) {}⟩

end Source
end Copybook
