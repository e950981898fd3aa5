import Mathlib
import Copybook.Text.Blank
import Copybook.Text.Case

/-!
Words that are spelled in capitals, in small letters or in both: they are the same words.
-/

namespace Copybook

variable {c d : Char}

-- What holds of the ASCII letters in either case holds of all characters in either case.
theorem eq_toLower {α : Type} {f : Char → α} (all : ∀ n < 0x80, f (Char.ofNat n).toLower = f (Char.ofNat n)) (c : Char) :
    f c.toLower = f c := by
  by_cases hc : c.toNat < 0x80
  case pos => simpa using all c.toNat hc
  case neg =>
    have hn : ¬(c.val ≥ 'A'.val ∧ c.val ≤ 'Z'.val) := fun h => hc <| by
      have hle : c.val.toNat ≤ 'Z'.val.toNat := h.right
      exact Nat.lt_of_le_of_lt hle (by decide)
    rw [Char.toLower, dif_neg hn]

theorem isBlank_toLower (c : Char) : isBlank c.toLower = isBlank c :=
  eq_toLower (by decide +kernel) c

theorem sameLetter_toLower (letter c : Char) : sameLetter letter c.toLower = sameLetter letter c := by
  have hl : c.toLower.toLower = c.toLower := eq_toLower (by decide +kernel) c
  have hn (n : Nat) (hn : 0x80 ≤ n) : (c.toLower.toNat == n) = (c.toNat == n) := by
    refine @eq_toLower _ (·.toNat == n) (fun m hm => ?_) c
    have hlt : ∀ m < 0x80, (Char.ofNat m).toLower.toNat < 0x80 ∧ (Char.ofNat m).toNat < 0x80 := by decide +kernel
    have ⟨ha, hb⟩ := hlt m hm
    simp only [beq_false_of_ne (Nat.ne_of_lt (Nat.lt_of_lt_of_le ha hn)),
      beq_false_of_ne (Nat.ne_of_lt (Nat.lt_of_lt_of_le hb hn))]
  simp only [sameLetter, hl, hn 0x17f (by decide), hn 0x131 (by decide), hn 0x130 (by decide), hn 0x212a (by decide)]

-- A letter does not stand for characters that differ from it, its other case and its variants in what they are.
theorem sameLetter_eq_false {p : Char → Bool} {letter : Char} (hp : ∀ c : Char, p c.toLower = p c)
    (hv : [0x17f, 0x131, 0x130, 0x212a].all fun n => !p (Char.ofNat n)) (hl : p letter = false) (hc : p c) :
    sameLetter letter c = false := by
  refine Bool.eq_false_iff.mpr fun h => ?_
  rw [sameLetter, Bool.or_eq_true] at h
  rcases h with h | h
  case inl =>
    rw [beq_iff_eq] at h
    rw [←hp, ←h, hp, hc] at hl
    contradiction
  case inr =>
    have variant {n : Nat} (hm : n ∈ [0x17f, 0x131, 0x130, 0x212a]) (hn : c.toNat = n) : False := by
      have hv := List.all_eq_true.mp hv n hm
      rw [←hn, Char.ofNat_toNat, hc] at hv
      contradiction
    split at h <;> simp only [Bool.or_eq_true, beq_iff_eq, Bool.false_eq_true] at h
    · exact variant (by decide) h
    · exact h.elim (variant (by decide)) (variant (by decide))
    · exact variant (by decide) h

theorem sameLetter_of_isBlank {letter : Char} (hl : isBlank letter = false) (hc : isBlank c) :
    sameLetter letter c = false :=
  sameLetter_eq_false isBlank_toLower (by decide) hl hc

theorem toLower_of_sameLetter {letter c : Char} (hc : c.toNat < 0x80) (h : sameLetter letter c) :
    c.toLower = letter.toLower := by
  rw [sameLetter, Bool.or_eq_true, beq_iff_eq] at h
  rcases h with h | h
  case inl => exact h
  case inr =>
    split at h <;> simp only [Bool.or_eq_true, beq_iff_eq, Bool.false_eq_true] at h <;> omega

namespace Text

variable {word s t : Text}

-- The text is the word, in capitals or in small letters.
def Spells (word s : Text) : Prop :=
  s.map Char.toLower = word.map Char.toLower

instance : Decidable (Spells word s) :=
  inferInstanceAs <| Decidable (_ = _)

theorem Spells.refl (word : Text) : Spells word word :=
  rfl

theorem Spells.ne_nil (h : Spells word s) (hw : word ≠ []) : s ≠ [] := by
  rintro rfl
  exact hw <| List.map_eq_nil_iff.mp h.symm

theorem Spells.append {a b : Text} (ha : Spells a s) (hb : Spells b t) : Spells (a ++ b) (s ++ t) := by
  rw [Spells, List.map_append, List.map_append, ha, hb]

-- What does not depend on the case of letters is found in a word however it is spelled.
theorem Spells.forall {p : Char → Prop} (h : Spells word s) (hp : ∀ c, p c.toLower ↔ p c) (hw : ∀ c ∈ word, p c) :
    ∀ c ∈ s, p c := by
  intro c hc
  have hm : c.toLower ∈ word.map Char.toLower := h ▸ List.mem_map_of_mem hc
  obtain ⟨d, hd, he⟩ := List.mem_map.mp hm
  exact (hp c).mp <| he ▸ (hp d).mpr (hw d hd)

-- Text of ASCII characters alone.
def IsAscii (s : Text) : Prop :=
  ∀ c ∈ s, c.toNat < 0x80

namespace IsAscii

theorem upper_eq_map (h : IsAscii s) : upper s = s.map Char.toUpper := by
  have hc : ∀ c ∈ s, upperChar c = [c.toUpper] := fun c hc => if_pos (h c hc)
  rw [upper, List.flatMap_congr hc, List.map_eq_flatMap]

-- What holds of a character in capitals wherever it holds of the character itself.
theorem forall_upper {p : Char → Bool} (all : ∀ n < 0x80, p (Char.ofNat n) → p (Char.ofNat n).toUpper) (h : IsAscii s)
    (hp : ∀ c ∈ s, p c) : ∀ c ∈ upper s, p c := by
  rw [h.upper_eq_map, List.forall_mem_map]
  intro c hc
  have hc' := all c.toNat (h c hc)
  rw [Char.ofNat_toNat] at hc'
  exact hc' (hp c hc)

theorem upper (h : IsAscii s) : IsAscii s.upper := fun c hc => by
  simpa using h.forall_upper (p := fun c => c.toNat < 0x80) (by decide +kernel) (fun d hd => by simpa using h d hd) c hc

theorem upper_eq (h : IsAscii s) {f : Char → Char} (all : ∀ n < 0x80, (f (Char.ofNat n)).toUpper = (Char.ofNat n).toUpper)
  : (s.map f).map Char.toUpper = s.upper := by
  rw [h.upper_eq_map, List.map_map, List.map_inj_left]
  intro c hc
  have hc' := all c.toNat (h c hc)
  rwa [Char.ofNat_toNat] at hc'

theorem upper_upper (h : IsAscii s) : s.upper.upper = s.upper := by
  rw [h.upper.upper_eq_map, h.upper_eq_map]
  exact (h.upper_eq (f := Char.toUpper) (by decide +kernel)).trans h.upper_eq_map

theorem spells_upper (h : IsAscii s) : Spells s.upper s := by
  rw [Spells, h.upper_eq_map, List.map_map, List.map_inj_left]
  intro c hc
  have all : ∀ n < 0x80, (Char.ofNat n).toLower = (Char.ofNat n).toUpper.toLower := by decide +kernel
  have hc' := all c.toNat (h c hc)
  rwa [Char.ofNat_toNat] at hc'

end IsAscii

theorem Spells.upper_eq (h : Spells word s) (hw : IsAscii word) (hs : IsAscii s) : s.upper = word.upper := by
  have all : ∀ n < 0x80, (Char.ofNat n).toLower.toUpper = (Char.ofNat n).toUpper := by decide +kernel
  rw [←hs.upper_eq all, ←hw.upper_eq all, h]

end Text
end Copybook
