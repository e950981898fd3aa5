import Copybook.Proofs.Record.Shape
import Copybook.Proofs.Session.Import
import Copybook.Proofs.Text.Utf8

/-!
Records as lines of JSON. What the bytes of the lines are split into at the ends of lines is read back as the values of
the records, one line for each of them.
-/

namespace Copybook

namespace Utf8

theorem encode_unlines (texts : List Text) :
    encode (Text.unlines texts) = [newline].intercalate (texts.map encode ++ [[]]) := by
  induction texts
  case nil => rfl
  case cons t texts hi =>
    have hu : Text.unlines (t :: texts) = t ++ '\n' :: Text.unlines texts := by simp [Text.unlines]
    have hc (s : Text) : encode ('\n' :: s) = newline :: encode s := rfl
    rw [hu, encode_append, hc, hi]
    cases texts <;> simp [List.intercalate, List.intersperse]

theorem count_newline_unlines {texts : List Text} (h : ∀ t ∈ texts, '\n' ∉ t) :
    (encode (Text.unlines texts)).count newline = texts.length := by
  induction texts
  case nil => rfl
  case cons t texts hi =>
    have ⟨ht, hts⟩ := List.forall_mem_cons.mp h
    have hu : Text.unlines (t :: texts) = t ++ '\n' :: Text.unlines texts := by simp [Text.unlines]
    have hc (s : Text) : encode ('\n' :: s) = newline :: encode s := rfl
    rw [hu, encode_append, hc, List.count_append, List.count_cons_self, hi hts,
      List.count_eq_zero_of_not_mem (fun hm => ht (newline_mem_encode.mp hm)), Nat.zero_add, List.length_cons]

-- The lines that a text is put together from are those that its bytes are split into, and nothing follows the last.
theorem splitOn_encode_unlines {texts : List Text} (h : ∀ t ∈ texts, '\n' ∉ t) :
    (encode (Text.unlines texts)).splitOn newline = texts.map encode ++ [[]] := by
  rw [encode_unlines, List.splitOn_intercalate]
  · intro b hb hn
    rcases List.mem_append.mp hb with hb | hb
    · obtain ⟨t, ht, rfl⟩ := List.mem_map.mp hb
      exact h t ht (newline_mem_encode.mp hn)
    · rw [List.mem_singleton.mp hb] at hn
      contradiction
  · simp

end Utf8

namespace Export

variable {records : List (Layout × Bytes)} {vs : List Value} {n : Nat} {s : Text}

-- A line of bytes says what a value is.
def Says (line : Bytes) (v : Value) : Prop :=
  ∃ t, Utf8.decode? line = some t ∧ Json.read t = .ok v.exported

-- The lines that records are written as, one for each record, are read back as their values.
theorem lines_read_back (hv : List.Forall₂ (fun r v => r.1.value r.2 = .ok v) records vs)
    (h : values .lines vs = .ok (.text n s)) :
    n = records.length ∧ (Utf8.encode s).count Utf8.newline = n ∧
      ∃ lines, (Utf8.encode s).splitOn Utf8.newline = lines ++ [[]] ∧ lines.length = n ∧
        List.Forall₂ Says lines vs := by
  obtain ⟨_, hl, he⟩ := bind_eq_ok_iff.mp h
  cases he
  obtain ⟨texts, hw, rfl⟩ := lines_eq_ok_iff.mp hl
  have hm : ∀ v ∈ vs, v.Exact ∧ v.Named := ((List.forall₂_and_left _ _).mp <| hv.flip.imp fun v r h =>
    ⟨⟨Layout.exact_of_value h, Layout.named_of_value h⟩, h⟩).left
  have hr : List.Forall₂ (fun t (v : Value) => '\n' ∉ t ∧ Json.read t = .ok v.exported) texts vs :=
    ((List.forall₂_and_left _ _).mpr ⟨hm, hw⟩).flip.imp fun t v h =>
      ⟨(Json.unbroken_writeAt rfl 0 v h.left.left h.right).newline, Json.read_write h.left.left h.left.right h.right⟩
  obtain ⟨hu, hr⟩ := (List.forall₂_and_left _ _).mp hr
  refine ⟨hv.length_eq.symm, ?_, texts.map Utf8.encode, Utf8.splitOn_encode_unlines hu, ?_, ?_⟩
  · rw [Utf8.count_newline_unlines hu, hw.length_eq]
  · rw [List.length_map, hw.length_eq]
  · exact List.forall₂_map_left_iff.mpr (hr.imp fun t v h => ⟨t, Utf8.decode?_encode t, h⟩)

-- An end of a line and a mark in a text, a negative number and characters that take two bytes.
theorem lenient_lines_read_back :
    let records : List (Layout × Bytes) := [
      (Layout.lenient, [0xf0, 0xf1, 0x40, 0x01, 0x5c, 0x25, 0x7f]),
      (Layout.lenient, [0xf9, 0xf2, 0x40, 0x05, 0x0d, 0xe0, 0x51])]
    let vs : List Value := [
      .record [("R".toList, .record [
        ("A".toList, .list [.int 0, .int 1]), ("B".toList, .decimal (.finite false 15 (-1))),
        ("C".toList, .text ['\n', '"'])])],
      .record [("R".toList, .record [
        ("A".toList, .list [.int 9, .int 2]), ("B".toList, .decimal (.finite true 50 (-1))),
        ("C".toList, .text ['\\', 'é'])])]]
    ∃ s, List.Forall₂ (fun r v => r.1.value r.2 = .ok v) records vs ∧ values .lines vs = .ok (.text 2 s) ∧
      (Utf8.encode s).count Utf8.newline = 2 ∧
      ∃ lines, (Utf8.encode s).splitOn Utf8.newline = lines ++ [[]] ∧ lines.length = 2 ∧
        List.Forall₂ Says lines vs := by
  intro records vs
  have hv : List.Forall₂ (fun r v => r.1.value r.2 = .ok v) records vs :=
    .cons (by with_unfolding_all rfl) (.cons (by with_unfolding_all rfl) .nil)
  obtain ⟨s, hs⟩ : ∃ s, values .lines vs = .ok (.text 2 s) := ⟨_, by with_unfolding_all rfl⟩
  exact ⟨s, hv, hs, (lines_read_back hv hs).right⟩

end Export
end Copybook
