import Copybook.Proofs.Field.Fault
import Copybook.Proofs.Layout.Placement

/-!
How a copybook fails to compile. A literal that its field refuses is a fault of the declaration, and so is all else
that can be wrong with it, unless a failure underneath the field stops the literal.
-/

namespace Copybook

namespace Initial

variable {codec : Codec}

-- The text that a literal stands for, if it is neither a figurative constant nor repeated.
def content (literal : Text) : Text :=
  (unquote? (Text.strip literal)).getD (Text.strip literal)

theorem zeros_not_escapes (codec : Codec) (type : FieldType) (length : Nat) :
    ¬type.Escapes codec (zeros type length) := by
  cases type
  case text => exact FieldType.text_not_escapes _ _ _ _
  case number => exact FieldType.zero_not_escapes _ _ _

-- What a literal means is refused by the field, unless it is a text that a failure underneath stops.
theorem encode_ends (hc : codec.Plain) (hv : codec.Converts) (literal : Text)
    (type : FieldType) (length : Nat) :
    Ends (fun _ => True) (fun fault => fault.kind.isFieldFault ∨ type.Escapes codec (.text (content literal)))
      (encode literal type length codec) := by
  have found {s : Text} : Ends (fun _ => True)
      (fun fault => fault.kind.isFieldFault ∨ type.Escapes codec (.text (content literal))) (codec.encode s) :=
    (Codec.encode_ends hc hv s).mono (fun _ h => h) fun _ => .inl
  simp only [encode]
  split
  case _ => trivial
  case _ =>
    split
    case isTrue => exact found.map fun _ h => h
    case isFalse =>
      split
      case isTrue => exact found.map fun _ h => h
      case isFalse =>
        split
        case isTrue =>
          refine (FieldType.encode_ends hc hv type _).mono (fun _ _ => trivial) fun fault hf => ?_
          exact .inl <| hf.mpr (zeros_not_escapes codec type length)
        case isFalse =>
          refine (FieldType.encode_ends hc hv type _).mono (fun _ _ => trivial) fun fault hf => ?_
          exact or_iff_not_imp_right.mpr hf.mpr

end Initial

namespace Layout

open Noting

variable {codec : Codec} {d : Declaration}

-- The literal of a declaration is stopped by a failure underneath its field.
def Stopped (codec : Codec) (d : Declaration) : Prop :=
  ∃ literal format type, d.value = some literal ∧ d.picture = some format ∧ Picture.classify format = .ok type ∧
    type.Escapes codec (.text (Initial.content literal))

theorem initial_fails (hc : codec.Plain) (hv : codec.Converts) (d : Declaration)
    (type : FieldType) : (initial codec d type).Fails fun f =>
      (∃ literal cause, d.value = some literal ∧ f = .source ⟨.initialValue literal cause, d.line⟩) ∨
        ∃ literal, d.value = some literal ∧ type.Escapes codec (.text (Initial.content literal)) := by
  unfold initial
  split
  case _ => exact Fails.pure none
  case _ literal hl =>
    have he := Initial.encode_ends hc hv literal type type.length
    cases hr : Initial.encode literal type type.length codec <;> simp only
    case ok => exact Fails.pure _
    case error fault =>
      have he := he.error hr
      split
      case isTrue => exact Fails.throw <| .inl ⟨literal, fault, hl, rfl⟩
      case isFalse h =>
        refine Fails.throw <| .inr ⟨literal, hl, he.resolve_left fun hk => h ?_⟩
        exact FaultKind.isCopybookFault_of_isFieldFault hk

-- A copybook is at fault, or the literal of one of its declarations is stopped.
def Blamed (codec : Codec) (declarations : List Declaration) (f : CompileFault) : Prop :=
  (∃ e, f = .source e) ∨ ∃ d ∈ declarations, Stopped codec d

theorem Blamed.mono {ds ds' : List Declaration} {f : CompileFault} (h : Blamed codec ds f) (hs : ds ⊆ ds') :
    Blamed codec ds' f :=
  h.imp_right fun ⟨d, hd, h⟩ => ⟨d, hs hd, h⟩

theorem refuse_fails {α : Type} (d : Declaration) (fault : SourceFault) (ds : List Declaration) :
    (refuse d fault : Placing α).Fails (Blamed codec ds) :=
  Fails.throw <| .inl ⟨_, rfl⟩

theorem target?_fails (earlier : List Node) (d : Declaration) (ds : List Declaration) :
    (target? earlier d).Fails (Blamed codec ds) := by
  unfold target?
  split
  · exact Fails.pure _
  · split
    · exact Fails.pure _
    · exact refuse_fails _ _ _

theorem fieldType_fails (d : Declaration) (format : Text) (ds : List Declaration) :
    (fieldType d format).Fails (Blamed codec ds) := by
  unfold fieldType
  split
  · exact Fails.pure _
  · exact refuse_fails _ _ _

theorem compare_fails (d : Declaration) (t : Option Node) (n : Node) (ds : List Declaration) :
    (compare d t n).Fails (Blamed codec ds) := by
  unfold compare
  split
  · exact Fails.pure _
  · split
    · exact Fails.note _
    · exact Fails.pure _

mutual

theorem place_fails (hc : codec.Plain) (hv : codec.Converts) (o : Outline)
    (earlier : List Node) (cursor : Nat) : (place codec earlier cursor o).Fails (Blamed codec o.flatten) := by
  have ⟨d, members⟩ := o
  rw [place, Outline.flatten]
  refine (target?_fails earlier d _).bind fun t _ => ?_
  simp only
  split
  case _ format hf =>
    refine (fieldType_fails d format _).bind fun type ⟨_, _, ht⟩ => ?_
    refine ((initial_fails hc hv d type).mono fun f h => ?_).bind fun bytes _ => ?_
    · exact h.elim (fun ⟨_, _, _, h⟩ => .inl ⟨_, h⟩) fun ⟨literal, hl, he⟩ =>
        .inr ⟨d, by simp, literal, format, type, hl, hf, (fieldType_yields ht).right, he⟩
    · refine (compare_fails d t _ _).bind fun _ _ => ?_
      split
      · exact Fails.pure _
      · exact refuse_fails _ _ _
  case _ =>
    have hm := placeAll_fails hc hv members [] ((t.map Node.offset).getD cursor)
    refine (hm.mono fun f h => h.mono (by simp)).bind fun (nodes, stop) _ => ?_
    have rest (length : Nat) (item : Option Bytes → Item) : Fails (do
        let bytes ← initial codec d (.text length false)
        let n := occurring d (.group (item bytes) length nodes)
        compare d t n
        return n) (Blamed codec (d :: Outline.flattenAll members)) := by
      refine ((initial_fails hc hv d _).mono fun f h => ?_).bind fun bytes _ => ?_
      · exact h.elim (fun ⟨_, _, _, h⟩ => .inl ⟨_, h⟩) fun ⟨_, _, he⟩ =>
          absurd he (FieldType.text_not_escapes _ _ _ _)
      · exact (compare_fails d t _ _).bind fun _ _ => Fails.pure _
    simp only
    split
    · exact (Fails.note _).bind fun _ _ => rest _ _
    · exact rest _ _

theorem placeAll_fails (hc : codec.Plain) (hv : codec.Converts) (os : List Outline)
    (earlier : List Node) (cursor : Nat) :
    (placeAll codec earlier cursor os).Fails (Blamed codec (Outline.flattenAll os)) := by
  cases os
  case nil =>
    rw [placeAll]
    exact Fails.pure _
  case cons o os =>
    rw [placeAll, Outline.flattenAll]
    refine ((place_fails hc hv o earlier cursor).mono fun f h => h.mono (by simp)).bind fun n _ => ?_
    have hs := placeAll_fails hc hv os (n :: earlier) (advance cursor o.declaration n)
    refine (hs.mono fun f h => h.mono (by simp)).bind fun _ _ => ?_
    exact Fails.pure _

end

-- The literal of a declaration, if there is one, has bytes: in the type of its picture, or as text in a group.
def Encoded (codec : Codec) (d : Declaration) : Prop :=
  ∀ literal, d.value = some literal → ∃ type b, Initial.encode literal type type.length codec = .ok b ∧
    ∀ format, d.picture = some format → Picture.classify format = .ok type

mutual

theorem place_encoded (o : Outline) {n : Node} {earlier : List Node} {cursor : Nat} {notices notices' : List Notice}
    (h : (place codec earlier cursor o).Yields notices n notices') : ∀ d ∈ o.flatten, Encoded codec d := by
  have ⟨d, members⟩ := o
  have ⟨_, _, _, h⟩ := place_cases h
  intro d' hd'
  rw [Outline.flatten] at hd'
  cases h
  case inl h =>
    have ⟨format, type, _, _, _, hf, hm, ht, hb, _⟩ := h
    subst hm
    cases List.mem_singleton.mp hd'
    intro literal hv
    have ⟨b, hb⟩ := (initial_yields hb).right literal hv
    refine ⟨type, b, hb, fun format' hf' => ?_⟩
    cases hf.symm.trans hf'
    exact (fieldType_yields ht).right
  case inr h =>
    have ⟨_, _, length, _, _, _, _, hf, hm, _, _, hb, _⟩ := h
    cases List.mem_cons.mp hd'
    case inl hd =>
      subst hd
      intro literal hv
      have ⟨b, hb⟩ := (initial_yields hb).right literal hv
      exact ⟨.text length false, b, hb, fun _ hf' => nomatch hf.symm.trans hf'⟩
    case inr hd => exact placeAll_encoded members hm d' hd

theorem placeAll_encoded (os : List Outline) {nodes : List Node} {stop : Nat} {earlier : List Node} {cursor : Nat}
    {notices notices' : List Notice} (h : (placeAll codec earlier cursor os).Yields notices (nodes, stop) notices') :
    ∀ d ∈ Outline.flattenAll os, Encoded codec d := by
  cases os
  case nil => exact nofun
  case cons o os =>
    have ⟨_, _, _, _, hn, hns⟩ := placeAll_cases h
    intro d hd
    rw [Outline.flattenAll] at hd
    cases List.mem_append.mp hd
    case inl hd => exact place_encoded o hn d hd
    case inr hd => exact placeAll_encoded os hns d hd

end

end Layout
end Copybook
