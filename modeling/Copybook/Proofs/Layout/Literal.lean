import Copybook.Layout.Template
import Copybook.Proofs.CodePage
import Copybook.Proofs.Layout.Path
import Copybook.Proofs.Layout.Placement
import Copybook.Proofs.Picture.Description
import Copybook.Proofs.Source.Literal

/-!
The layout of a copybook with a quoted literal: the field has the text of the literal, filled with blanks.
-/

namespace Copybook

open Source (isQuote quoted doubled textFormat textItem)

variable {mark : Char} {t : Text} {n : Nat}

namespace Picture

-- Text has as many characters as its picture says.
theorem classify_textFormat (h : n < 10 ^ maxDigits) : classify (textFormat n) = .ok (.text n false) := by
  have hd : textFormat n = FieldType.describe (.text n false) := rfl
  rw [hd, @classify_describe (.text n false) rfl trivial]
  exact counted_eq_ok_iff.mpr (List.forall_mem_singleton.mpr ((Text.digitCount_le_iff (by decide)).mpr h))

end Picture

namespace Initial

theorem undouble_doubled (mark : Char) (t : Text) : undouble mark (doubled mark t) = t := by
  induction t
  case nil => rfl
  case cons c t hi =>
    by_cases h : c = mark
    case pos => rw [h, Source.doubled_cons_self, undouble, if_pos ⟨rfl, rfl⟩, hi]
    case neg =>
      rw [Source.doubled_cons_of_ne h]
      cases hd : doubled mark t <;> rw [hd] at hi
      case nil => exact congrArg (c :: ·) hi
      case cons d s => rw [undouble, if_neg (by simp [h]), hi]

theorem unquote?_quoted (hm : isQuote mark) (t : Text) : unquote? (quoted mark t) = some t := by
  have hq : mark = '\'' ∨ mark = '"' := by simpa [isQuote] using hm
  rw [quoted, unquote?, if_pos ⟨hq, List.getLast?_concat⟩, List.dropLast_concat, undouble_doubled]

-- A quoted literal is none of the words that mean something else.
theorem encode_quoted (hm : isQuote mark) (t : Text) (type : FieldType) (length : Nat) (codec : Codec) :
    encode (quoted mark t) type length codec = type.encode codec (.text t) := by
  have hb := Source.not_isBlank_of_isQuote hm
  have hs : Text.strip (quoted mark t) = quoted mark t := by
    rw [quoted, Text.strip, List.dropWhile_cons_of_neg (by simp [hb]), ←List.cons_append,
      Text.dropRight_concat_of_neg _ hb]
  obtain ⟨w, hw⟩ : ∃ w, (quoted mark t).upper = mark :: w := by
    simp only [isQuote, Bool.or_eq_true, beq_iff_eq] at hm
    rcases hm with rfl | rfl <;> exact ⟨_, rfl⟩
  have hword : fill? (mark :: w) = none ∧ isSpaces (mark :: w) = false ∧ "ALL ".toList.isPrefixOf (mark :: w) = false ∧
      isZeros (mark :: w) = false := by
    simp only [isQuote, Bool.or_eq_true, beq_iff_eq] at hm
    rcases hm with rfl | rfl <;> exact ⟨by simp [fill?], by simp [isSpaces], rfl, by simp [isZeros]⟩
  obtain ⟨hfill, hspaces, hall, hzeros⟩ := hword
  rw [encode, hs, hw, hfill]
  simp only [hspaces, hall, hzeros, unquote?_quoted hm, Option.getD_some]
  rfl

end Initial

namespace Layout

def recordDeclaration : Declaration :=
  ⟨1, "R".toList, none, none, none, none, none, none, none, "01 R".toList⟩

def textDeclaration (mark : Char) (n : Nat) (t : Text) : Declaration :=
  ⟨5, "A".toList, some (textFormat n), none, none, some (quoted mark t), some "R".toList, none, none, textItem mark n t⟩

def textNode (mark : Char) (n : Nat) (t : Text) (b : Bytes) : Node :=
  .field ⟨"A".toList, 0, none, some (quoted mark t), some b⟩ (.text n false)

-- The layout of the copybook with a literal, whose bytes are these.
def ofLiteral (mark : Char) (n : Nat) (t : Text) (b : Bytes) : Layout where
  length := n
  members := [.group ⟨"R".toList, 0, none, none, none⟩ n [textNode mark n t b]]
  declarations := [recordDeclaration, textDeclaration mark n t]
  codec := {}

-- A line whose level is in range declares an item before those of the lines after it.
theorem declarationsFrom_cons {outer : Source.Nesting} {line name : Text} {level : Nat}
    {clauses : Clauses}
    (hb : line.all isBlank = false) (hd : Source.declare line = .ok (level, name, clauses))
    (hs : Source.isSkipped level = false) (hr : 1 ≤ Source.effectiveLevel level ∧ Source.effectiveLevel level ≤ 49)
    (lines : List Text) :
    let nesting := outer.around (Source.effectiveLevel level)
    let declaration := nesting.place (Source.effectiveLevel level) name clauses line
    Source.declarationsFrom outer (line :: lines) =
      (Source.declarationsFrom (nesting.push declaration) lines).map (declaration :: ·) := by
  have hr : ¬(Source.effectiveLevel level < 1 ∨ 49 < Source.effectiveLevel level) := by omega
  intro nesting declaration
  rw [Source.declarationsFrom, hb, hd, if_neg Bool.false_ne_true]
  change (if _ then _ else _) = _
  rw [hs, if_neg Bool.false_ne_true]
  change (if _ then _ else _) = _
  rw [if_neg hr]
  change (Source.declarationsFrom (nesting.push declaration) lines >>= fun ds => pure (declaration :: ds)) = _
  cases Source.declarationsFrom (nesting.push declaration) lines <;> rfl

theorem declarations_textItem (hm : isQuote mark) (hl : ∀ c ∈ t, isLineEnd c = false) (n : Nat) :
    Source.declarations ["01 R".toList, textItem mark n t] = .ok [recordDeclaration, textDeclaration mark n t] := by
  have hr : Source.declare "01 R".toList = .ok (1, "R".toList, ⟨none, none, none, none⟩) := rfl
  have hb : (textItem mark n t).all isBlank = false := rfl
  rw [Source.declarations, declarationsFrom_cons rfl hr rfl (by decide),
    declarationsFrom_cons hb (Source.declare_textItem hm hl n) rfl (by decide)]
  rfl

section Place

variable (hm : isQuote mark) (hn : n < 10 ^ maxDigits) {b : Bytes}
  (hb : (FieldType.text n false).encode {} (.text t) = .ok b)

include hm hn hb

theorem place_textDeclaration :
    placeAll {} [] 0 [.item (textDeclaration mark n t) []] = pure ([textNode mark n t b], n) := by
  have hf : fieldType (textDeclaration mark n t) (textFormat n) = pure (.text n false) := by
    rw [fieldType, Picture.classify_textFormat hn]
  have hi : initial {} (textDeclaration mark n t) (.text n false) = pure (some b) := by
    rw [initial]
    simp only [textDeclaration, Initial.encode_quoted hm, hb]
  have hp : place {} [] 0 (.item (textDeclaration mark n t) []) = pure (textNode mark n t b) := by
    have hd : (textDeclaration mark n t).picture = some (textFormat n) := rfl
    rw [place]
    simp only [hd, hf, pure_bind, hi]
    rfl
  rw [placeAll, hp, pure_bind, placeAll, advance]
  simp only [Outline.declaration, textDeclaration, Nat.zero_add]
  rfl

theorem place_recordDeclaration : placeAll {} [] 0 [.item recordDeclaration [.item (textDeclaration mark n t) []]] =
    pure ((ofLiteral mark n t b).members, n) := by
  have hp : place {} [] 0 (.item recordDeclaration [.item (textDeclaration mark n t) []]) =
      pure (Node.group ⟨"R".toList, 0, none, none, none⟩ n [textNode mark n t b]) := by
    have hd : recordDeclaration.picture = none := rfl
    have ht : target? [] recordDeclaration = pure none := rfl
    have hi : initial {} recordDeclaration (.text n false) = pure none := rfl
    rw [place]
    simp only [hd, ht, pure_bind, Option.map_none, Option.getD_none, place_textDeclaration hm hn hb, Nat.sub_zero,
      List.isEmpty_cons, hi]
    rfl
  rw [placeAll, hp, pure_bind, placeAll, advance]
  simp only [Outline.declaration, recordDeclaration, Nat.zero_add]
  rfl

theorem ofStatements_textItem (hl : ∀ c ∈ t, isLineEnd c = false) :
    (ofStatements ["01 R".toList, textItem mark n t] {}).result = (.ok (ofLiteral mark n t b), []) := by
  have ho : Outline.ofDeclarations [recordDeclaration, textDeclaration mark n t] =
      [.item recordDeclaration [.item (textDeclaration mark n t) []]] := by
    simp [Outline.ofDeclarations, recordDeclaration, textDeclaration]
  have hd : ofDeclarations [recordDeclaration, textDeclaration mark n t] {} = pure (ofLiteral mark n t b) := by
    rw [ofDeclarations, ho, place_recordDeclaration hm hn hb, pure_bind]
    rfl
  rw [ofStatements, declarations_textItem hm hl]
  change (ofDeclarations [recordDeclaration, textDeclaration mark n t] {}).result = _
  rw [hd]
  rfl

end Place

-- A fresh record is the bytes of the literal.
theorem template_ofLiteral {b : Bytes} (h : b.length = n) : (ofLiteral mark n t b).template = b := by
  have hi : (ofLiteral mark n t b).initials = [(0, b)] := rfl
  rw [template, hi]
  simp [stamp, Bytes.splice, ofLiteral, h]

end Layout
end Copybook
