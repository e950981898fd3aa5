import Copybook.Layout.Initial
import Copybook.Proofs.Field.Width
import Copybook.Proofs.Text.Case

/-!
The bytes of a literal are as many as the field or group has that it is for: what a figurative constant or `ALL` fills
is filled to its end, and everything else is encoded as the field itself is.
-/

namespace Copybook

namespace Text

variable {s : Text}

-- What is left of a text without the blanks around it ends with a character that is no blank.
theorem strip_eq (s : Text) : strip s = [] ∨ ∃ t c, strip s = t ++ [c] ∧ isBlank c = false := by
  have hc := List.head?_dropWhile_not isBlank (s.dropWhile isBlank).reverse
  rw [strip, dropRight]
  cases hr : (s.dropWhile isBlank).reverse.dropWhile isBlank <;> rw [hr] at hc
  case nil => exact .inl rfl
  case cons c t => exact .inr ⟨t.reverse, c, List.reverse_cons, hc⟩

theorem strip_ne_nil {c : Char} (hc : isBlank c = false) (t : Text) : strip (t ++ [c]) ≠ [] := by
  have ⟨u, hu⟩ : ∃ u, (t ++ [c]).dropWhile isBlank = u ++ [c] := by
    rw [List.dropWhile_append]
    split
    · exact ⟨[], by simp [hc]⟩
    · exact ⟨_, rfl⟩
  rw [strip, hu, dropRight_concat_of_neg u hc]
  simp

end Text

namespace Bytes

theorem length_cycle {b : Bytes} (hb : b ≠ []) (length : Nat) : (cycle b length).length = length := by
  have hp : 0 < b.length := List.length_pos_iff.mpr hb
  have hl : length < b.length * (length / b.length + 1) := Nat.lt_mul_div_succ length hp
  rw [Nat.mul_comm] at hl
  simpa [cycle, Nat.max_eq_left hp] using hl.le

end Bytes

namespace CodePage

-- Text that is not empty has bytes.
theorem encode?_ne_nil {page : CodePage} {s : Text} {b : Bytes} (hu : page ≠ .utf16) (hs : s ≠ [])
    (h : page.encode? s = some b) : b ≠ [] := by
  cases s
  case nil => contradiction
  case cons c s =>
    have ⟨pieces, hp, hb⟩ := Option.map_eq_some_iff.mp h
    have hc {piece : Bytes} (h : page.encodeChar? c = some piece) : piece ≠ [] := by
      unfold encodeChar? at h
      split at h
      case _ =>
        have ⟨i, _, hi⟩ := Option.map_eq_some_iff.mp h
        simp [←hi]
      case _ hn =>
        have hu : page = .utf8 := by cases page <;> first | contradiction | rfl
        cases h
        rw [if_pos hu]
        simp
    rw [List.mapM_cons] at hp
    have ⟨piece, hpiece, hp⟩ := Option.bind_eq_some_iff.mp hp
    have ⟨rest, _, hp⟩ := Option.bind_eq_some_iff.mp hp
    cases hp
    simp [←hb, hc hpiece]

end CodePage

namespace Initial

variable {codec : Codec} {page : CodePage} {literal : Text} {type : FieldType} {b : Bytes}

theorem pattern_ne_nil {s : Text} (h : s ≠ []) : pattern s ≠ [] := by
  unfold pattern
  split
  case _ => exact h
  case _ hn _ => exact fun he => hn he
  case _ => exact h

-- What `ALL` repeats is not empty: there is a character after the word, or the blank at its end would be gone.
theorem all_ne_nil (h : "ALL ".toList.isPrefixOf (Text.strip literal).upper) :
    Text.strip ((Text.strip literal).drop 4) ≠ [] := by
  have ⟨a, b, c, rest, hs⟩ := Text.upper_all_prefix (List.isPrefixOf_iff_prefix.mp h)
  rcases Text.strip_eq literal with he | ⟨t, d, he, hd⟩
  case inl => simp [he] at hs
  case inr =>
    rw [hs]
    have hlast := congrArg List.getLast? (hs.symm.trans he)
    rcases List.eq_nil_or_concat rest with hr | ⟨u, e, hr⟩ <;> rw [hr] at hlast ⊢
    case inl =>
      have hd' : ' ' = d := by simpa using hlast
      rw [←hd'] at hd
      contradiction
    case inr =>
      have hd' : e = d := by simpa [List.getLast?_cons] using hlast
      rw [List.concat_eq_append, hd']
      exact Text.strip_ne_nil hd u

theorem length_encode (hc : codec.Plain) (hp : CodePage.ofName? codec.page = some page) (hu : page ≠ .utf16)
    (hd : type.HasDigits) (h : encode literal type type.length codec = .ok b) : b.length = type.length := by
  simp only [encode] at h
  split at h
  case _ =>
    cases h
    exact List.length_replicate
  case _ =>
    split at h
    case isTrue =>
      have ⟨blank, hb, hr⟩ := map_eq_ok_iff.mp h
      have hm : ∀ c ∈ [' '], c ∈ CodePage.numeric := by simpa using CodePage.blank_mem_numeric
      have hl := CodePage.length_encode?_numeric hm <| (Codec.encode_eq_ok_iff hc hp).mp hb
      rw [if_neg hu] at hl
      simp [←hr, hl]
    case isFalse =>
      split at h
      case isTrue ha =>
        have ⟨piece, hb, hr⟩ := map_eq_ok_iff.mp h
        have hne := CodePage.encode?_ne_nil hu (pattern_ne_nil (all_ne_nil ha)) ((Codec.encode_eq_ok_iff hc hp).mp hb)
        rw [←hr, Bytes.length_cycle hne]
      case isFalse =>
        split at h
        · exact FieldType.length_encode hc hp hu hd h
        · exact FieldType.length_encode hc hp hu hd h

end Initial
end Copybook
