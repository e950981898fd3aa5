import Mathlib
import Copybook.Field.Zoned

/-!
The characters that numbers are written with: every code page has them, all but one with a byte for each, and they
are read back as they were.
-/

namespace Copybook.CodePage

-- The blank and the characters of zoned numbers.
def numeric : List Char :=
  ' ' :: Zoned.positiveDigits ++ Zoned.negativeDigits ++ Zoned.plainDigits

-- A character with a byte of its own that is read alone.
def Narrow (page : CodePage) (c : Char) : Prop :=
  ∃ byte, page.encodeChar? c = some [byte] ∧ ∀ rest, page.decode (byte :: rest) = c :: page.decode rest

theorem narrow_of_mem_chars {page : CodePage} {chars : List Char} {c : Char} (hp : page.chars? = some chars)
    (hl : chars.length ≤ 256) (hc : c ∈ chars) : page.Narrow c := by
  have ⟨i, hi⟩ := Option.isSome_iff_exists.mp <| List.isSome_idxOf?.mpr hc
  have ⟨hlt, he, _⟩ := List.idxOf?_eq_some_iff.mp hi
  refine ⟨UInt8.ofNat i, by simp [encodeChar?, hp, hi], fun rest => ?_⟩
  have hn : (UInt8.ofNat i).toNat = i := by
    rw [UInt8.toNat_ofNat']
    omega
  simp [decode, hp, hn, hlt, he]

theorem toNat_lt_of_mem_numeric {c : Char} (h : c ∈ numeric) : c.toNat < 0x80 := by
  have all : numeric.all fun c => c.toNat < 0x80 := by decide
  exact of_decide_eq_true <| List.all_eq_true.mp all c h

theorem blank_mem_numeric : ' ' ∈ numeric := by
  simp [numeric]

theorem mem_map_ofNat {c : Char} {n : Nat} (h : c.toNat < n) : c ∈ (List.range n).map Char.ofNat :=
  List.mem_map.mpr ⟨c.toNat, List.mem_range.mpr h, Char.ofNat_toNat c⟩

theorem utf8_narrow {c : Char} (h : c.toNat < 0x80) : utf8.Narrow c := by
  have hn : (UInt8.ofNat c.toNat).toNat = c.toNat := by
    rw [UInt8.toNat_ofNat']
    omega
  have hs : c.utf8Size = 1 := by
    have hv : c.val ≤ 0x7f := by
      rw [UInt32.le_iff_toNat_le]
      exact Nat.le_of_lt_succ h
    exact if_pos hv
  have hb : UInt8.ofNat c.toNat < 0x80 := by
    rw [UInt8.lt_iff_toNat_lt, hn]
    exact h
  refine ⟨UInt8.ofNat c.toNat, ?_, fun rest => ?_⟩
  · simp only [encodeChar?, chars?, if_true, String.utf8EncodeChar_eq_singleton hs]
    rfl
  · simp [decode, chars?, Utf8.decode, Utf8.decodeFrom, Utf8.start, hb, hn]

theorem length_variant (changes : List (Nat × Nat)) : (variant changes).length = 256 := by
  rw [variant, List.length_map, List.length_zipIdx]
  decide +kernel

-- In the variants of the first page these characters stand in one order.
theorem narrow_of_isSublist {page : CodePage} {changes : List (Nat × Nat)} (hp : page.chars? = some (variant changes))
    (hs : numeric.isSublist (variant changes)) {c : Char} (hc : c ∈ numeric) : page.Narrow c :=
  narrow_of_mem_chars hp (Nat.le_of_eq <| length_variant changes) <| (List.isSublist_iff_sublist.mp hs).mem hc

theorem narrow_of_mem_numeric {page : CodePage} (hp : page ≠ .utf16) {c : Char} (hc : c ∈ numeric) :
    page.Narrow c := by
  have ha := toNat_lt_of_mem_numeric hc
  cases page
  case cp037 => exact narrow_of_isSublist rfl (by decide +kernel) hc
  case cp500 => exact narrow_of_isSublist rfl (by decide +kernel) hc
  case cp1140 => exact narrow_of_isSublist rfl (by decide +kernel) hc
  case ascii => exact narrow_of_mem_chars rfl (by simp [asciiChars]) <| mem_map_ofNat ha
  case latin1 => exact narrow_of_mem_chars rfl (by simp [latin1Chars]) <| mem_map_ofNat (by omega)
  case utf8 => exact utf8_narrow ha
  case utf16 => contradiction

-- Text of narrow characters has as many bytes as characters, and is read back.
theorem encode?_of_narrow {page : CodePage} {s : Text} (h : ∀ c ∈ s, page.Narrow c) :
    ∃ b, page.encode? s = some b ∧ b.length = s.length ∧ page.decode b = s := by
  induction s
  case nil => exact ⟨[], rfl, rfl, by cases page <;> rfl⟩
  case cons c s hi =>
    have ⟨b, hb, hl, hd⟩ := hi fun x hx => h x (by simp [hx])
    have ⟨byte, hc, hr⟩ := h c (by simp)
    have ⟨pieces, hp, hj⟩ := Option.map_eq_some_iff.mp hb
    refine ⟨byte :: b, ?_, by simp [hl], by rw [hr, hd]⟩
    simp [encode?, hc, hp, ←hj]

end Copybook.CodePage
