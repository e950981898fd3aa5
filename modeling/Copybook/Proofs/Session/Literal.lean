import Copybook.Proofs.Field.Text
import Copybook.Proofs.Layout.Literal
import Copybook.Proofs.Session.Independence

/-!
A quoted literal is what a fresh record has in its field, whatever the literal contains, as long as no comment begins
in it: a comment mark is a mark inside a literal too.
-/

namespace Copybook

open Source (isQuote textSource textLine Unmarked)

variable {mark : Char} {t : Text} {n : Nat}

-- Text that is stored is read from a fresh record without the padding at its end.
theorem Layout.read_ofLiteral {b : Bytes} (hb : FieldType.encodeText {} n t = .ok b) (hl : b.length = n) :
    ∃ spot, (ofLiteral mark n t b).fieldAt? [.text "A".toList] = some spot ∧
      spot.read {} b = .ok (.text (Text.dropRight FieldType.isPadding t)) := by
  have hp : CodePage.ofName? ({} : Codec).page = some .cp037 := by cbv
  have hd := FieldType.decode_of_encodeText ⟨rfl, rfl⟩ hp rfl hb
  refine ⟨⟨⟨"A".toList, 0, none, some (Source.quoted mark t), some b⟩, .text n false, 0, _⟩, rfl, ?_⟩
  rw [Spot.read_eq (by simp [Spot.stop, Spot.start, FieldType.length, hl])]
  have hs : Bytes.slice b 0 (0 + n) = b := by simp [Bytes.slice, ←hl]
  change ((FieldType.text n false).decode {} (Bytes.slice b 0 (0 + n))).mapError AccessFault.field = _
  rw [hs, FieldType.decode, FieldType.decodeText_eq ⟨rfl, rfl⟩ hp, hd]
  exact congrArg (fun s => Except.ok (Value.text s)) (FieldType.dropRight_fill t _)

namespace Session

-- Reading `A` from a fresh record of the layout comes to this text.
def ReadsText (layout : Layout) (t : Text) : Prop :=
  ∀ (layouts : List Layout) (s : Session) (number : Nat) (name : Text), s.Reachable layouts →
    s.layouts[number]? = some layout →
      ((s.stepWith .remembering (.makeRecord name number .fresh)).2.getAt name [.text "A".toList]).1 =
        .ok (.found (.value (.text t)))

theorem literal_kept (hm : isQuote mark) (hl : ∀ c ∈ t, isLineEnd c = false)
    (hc : ∀ c ∈ t, (CodePage.cp037.encodeChar? c).isSome) (ht : t.length ≤ n) (hn : n < 10 ^ maxDigits) :
    (Unmarked t → ∃ layout, (Layout.compile (textSource mark n t) {}).result = (.ok layout, []) ∧
      ReadsText layout (Text.dropRight FieldType.isPadding t)) ∧
    ∀ u rest, t = u ++ '*' :: '>' :: rest → Unmarked u →
      Layout.compile (textSource mark n t) {} = Layout.compile (textLine mark n u) {} := by
  have hp : CodePage.ofName? ({} : Codec).page = some .cp037 := by cbv
  have hs : CodePage.cp037.chars? = some CodePage.cp037Chars := rfl
  refine ⟨fun hu => ?_, fun u rest he hu => ?_⟩
  · have hnarrow : ∀ c ∈ t, CodePage.cp037.Narrow c := fun c h => CodePage.narrow_of_encodeChar? hs (hc c h)
    obtain ⟨b, hb, hlen, _⟩ := FieldType.encodeText_of_narrow ⟨rfl, rfl⟩ hp hs hnarrow ht
    refine ⟨Layout.ofLiteral mark n t b, ?_, fun layouts s number name hr hnum => ?_⟩
    · rw [Layout.compile, Source.statements_textSource hm hl hu]
      exact Layout.ofStatements_textItem hm hn hb hl
    · obtain ⟨spot, hf, hv⟩ := @Layout.read_ofLiteral mark _ _ _ hb hlen
      have hbuf : (s.buffers ++ [(Layout.ofLiteral mark n t b).template]).getD s.buffers.length [] = b := by
        simp [Layout.template_ofLiteral hlen]
      rw [(getAt_eq (hr.step _) (has_fresh hnum name) _).left, Layout.navigate_field hf, hbuf]
      exact congrArg (fun r => (r.map Found.value).map Reply.found) hv
  · obtain ⟨hlu, hlr⟩ := List.forall_mem_append.mp (he ▸ hl)
    rw [Layout.compile, Layout.compile, he,
      Source.statements_textSource_of_mark hm hlu hu fun c h => hlr c (by simp [h])]

-- A literal with clauses, statements and the other mark in it.
theorem sample_literal_kept :
    let t := "it's \"X\". PIC 9 OCCURS 5.  * ".toList
    Unmarked t ∧ ∃ layout, (Layout.compile (textSource '\'' 40 t) {}).result = (.ok layout, []) ∧
      ReadsText layout "it's \"X\". PIC 9 OCCURS 5.  *".toList := by
  intro t
  have hl : ∀ c ∈ t, isLineEnd c = false := by
    have : t.all (!isLineEnd ·) := by decide +kernel
    simpa using this
  have hc : ∀ c ∈ t, (CodePage.cp037.encodeChar? c).isSome := List.all_eq_true.mp (by decide +kernel)
  have hu : Unmarked t := by decide +kernel
  have hn : 40 < 10 ^ maxDigits :=
    Nat.lt_of_lt_of_le (by decide : 40 < 10 ^ 2) (Nat.pow_le_pow_right (by decide) (by decide))
  exact ⟨hu, (literal_kept rfl hl hc (by decide +kernel) hn).left hu⟩

end Session

namespace Layout

-- The layout of `01 R. 05 A PIC X(2) VALUE '*>'.`, whose literal is cut before it is closed.
def cut : Layout where
  length := 2
  members := [.group ⟨"R".toList, 0, none, none, none⟩ 2 [
    .field ⟨"A".toList, 0, none, none, none⟩ (.text 2 false)]]
  declarations := [
    ⟨1, "R".toList, none, none, none, none, none, none, none, "01 R".toList⟩,
    ⟨5, "A".toList, some "X(2)".toList, none, none, none, some "R".toList, none, none,
      "05 A PIC X(2) VALUE '".toList⟩]
  codec := {}

set_option maxRecDepth 1000 in
theorem cut_compiled : (compile (textSource '\'' 2 "*>".toList) {}).result = (.ok cut, []) := by
  have hs : Source.statements (textSource '\'' 2 "*>".toList) = ["01 R".toList, "05 A PIC X(2) VALUE '".toList] := by
    decide +kernel
  have hd : Source.declarations ["01 R".toList, "05 A PIC X(2) VALUE '".toList] = .ok cut.declarations := by
    with_unfolding_all rfl
  have hl : (ofDeclarations cut.declarations {}).result = (.ok cut, []) := by
    with_unfolding_all rfl
  rw [compile, hs, ofStatements, hd]
  exact hl

end Layout

namespace Session

theorem cut_reads_nothing : ReadsText Layout.cut [] := by
  intro layouts s number name hr hn
  have hf : Layout.cut.fieldAt? [.text "A".toList] =
      some ⟨⟨"A".toList, 0, none, none, none⟩, .text 2 false, 0, [.name "A".toList]⟩ := rfl
  have hbuf : (s.buffers ++ [Layout.cut.template]).getD s.buffers.length [] = [0, 0] := by
    simp
    rfl
  have hv : Spot.read ⟨⟨"A".toList, 0, none, none, none⟩, .text 2 false, 0, [.name "A".toList]⟩ {} [0, 0] =
    .ok (.text []) := rfl
  rw [(getAt_eq (hr.step _) (has_fresh hn name) _).left, Layout.navigate_field hf, hbuf]
  exact congrArg (fun r => (r.map Found.value).map Reply.found) hv

-- A comment mark in a literal is not the text that it stands for: the field is left without its value.
theorem comment_mark_interpreted : ¬∀ (mark : Char) (t : Text) (n : Nat), isQuote mark →
    (∀ c ∈ t, isLineEnd c = false) → (∀ c ∈ t, (CodePage.cp037.encodeChar? c).isSome) → t.length ≤ n →
      n < 10 ^ maxDigits → ∃ layout, (Layout.compile (textSource mark n t) {}).result = (.ok layout, []) ∧
        ReadsText layout (Text.dropRight FieldType.isPadding t) := by
  intro h
  have hn : 2 < 10 ^ maxDigits :=
    Nat.lt_of_lt_of_le (by decide : 2 < 10 ^ 1) (Nat.pow_le_pow_right (by decide) (by decide))
  have hl : ∀ c ∈ "*>".toList, isLineEnd c = false := by simp [isLineEnd]
  obtain ⟨layout, hc, hr⟩ := h '\'' "*>".toList 2 rfl hl (List.all_eq_true.mp (by decide +kernel)) (by decide) hn
  cases hc.symm.trans Layout.cut_compiled
  have hs : (start [Layout.cut]).layouts[0]? = some Layout.cut := rfl
  have ht := hr [Layout.cut] (start [Layout.cut]) 0 "r".toList .start hs
  rw [cut_reads_nothing [Layout.cut] (start [Layout.cut]) 0 "r".toList .start hs] at ht
  simp [Text.dropRight, FieldType.isPadding] at ht

end Session
end Copybook
