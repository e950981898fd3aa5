import Copybook.Text.Utf8

/-!
What is written as UTF-8 is read back. A character takes between one and four bytes, and the bounds with which the
second one is read admit just the forms that characters have.
-/

namespace Copybook.Utf8

variable {n k missing bits : Nat} {low high : UInt8} {rest : Bytes}

theorem start_ofNat (h : n < 256) : start (.ofNat n) =
    if n < 0x80 then .done (Char.ofNat n)
    else if n < 0xc2 then .done replacementChar
    else if n < 0xe0 then .more ⟨1, 0x80, 0xbf, n - 0xc0⟩
    else if n < 0xf0 then
      .more ⟨2, if n = 0xe0 then 0xa0 else 0x80, if n = 0xed then 0x9f else 0xbf, n - 0xe0⟩
    else if n < 0xf5 then
      .more ⟨3, if n = 0xf0 then 0x90 else 0x80, if n = 0xf4 then 0x8f else 0xbf, n - 0xf0⟩
    else .done replacementChar := by
  have hn : (UInt8.ofNat n).toNat = n := UInt8.toNat_ofNat_of_lt h
  simp only [start, UInt8.lt_iff_toNat_lt, ←UInt8.toNat_inj, hn]
  rfl

theorem decodeFrom_one (h : n < 0x80) : decodeFrom none (.ofNat n :: rest) = Char.ofNat n :: decodeFrom none rest := by
  rw [decodeFrom, start_ofNat (by omega), if_pos h]

theorem decodeFrom_two (hl : 2 ≤ k) (hk : k < 32) :
    decodeFrom none (.ofNat (k + 0xc0) :: rest) = decodeFrom (some ⟨1, 0x80, 0xbf, k⟩) rest := by
  rw [decodeFrom, start_ofNat (by omega), if_neg (by omega), if_neg (by omega), if_pos (by omega), Nat.add_sub_cancel]

theorem decodeFrom_three (hk : k < 16) : decodeFrom none (.ofNat (k + 0xe0) :: rest) =
    decodeFrom (some ⟨2, if k = 0 then 0xa0 else 0x80, if k = 13 then 0x9f else 0xbf, k⟩) rest := by
  rw [decodeFrom, start_ofNat (by omega), if_neg (by omega), if_neg (by omega), if_neg (by omega), if_pos (by omega),
    Nat.add_sub_cancel]
  simp only [Nat.reduceEqDiff, Nat.add_eq_right]

theorem decodeFrom_four (hk : k < 5) : decodeFrom none (.ofNat (k + 0xf0) :: rest) =
    decodeFrom (some ⟨3, if k = 0 then 0x90 else 0x80, if k = 4 then 0x8f else 0xbf, k⟩) rest := by
  rw [decodeFrom, start_ofNat (by omega), if_neg (by omega), if_neg (by omega), if_neg (by omega), if_neg (by omega),
    if_pos (by omega), Nat.add_sub_cancel]
  simp only [Nat.reduceEqDiff, Nat.add_eq_right]

-- A byte that goes on with a character adds six bits to it.
theorem decodeFrom_more (hk : k < 64) (hl : low.toNat ≤ k + 0x80) (hh : k + 0x80 ≤ high.toNat) :
    decodeFrom (some ⟨missing, low, high, bits⟩) (.ofNat (k + 0x80) :: rest) =
      if missing ≤ 1 then Char.ofNat (bits * 64 + k) :: decodeFrom none rest
      else decodeFrom (some ⟨missing - 1, 0x80, 0xbf, bits * 64 + k⟩) rest := by
  have hn : (UInt8.ofNat (k + 0x80)).toNat = k + 0x80 :=
    UInt8.toNat_ofNat_of_lt (Nat.lt_trans (Nat.add_lt_add_right hk _) (by decide))
  have ha : (Pending.mk missing low high bits).accepts (.ofNat (k + 0x80)) = true := by
    simp only [Pending.accepts, UInt8.le_iff_toNat_le, hn, hl, hh, decide_true, Bool.and_self]
  rw [decodeFrom, if_pos ha, Pending.next, hn, Nat.add_sub_cancel]
  by_cases hm : missing ≤ 1 <;> simp only [hm, if_true, if_false]

theorem decodeFrom_last (hk : k < 64) :
    decodeFrom (some ⟨1, 0x80, 0xbf, bits⟩) (.ofNat (k + 0x80) :: rest) =
      Char.ofNat (bits * 64 + k) :: decodeFrom none rest :=
  decodeFrom_more hk (Nat.le_add_left _ _) (Nat.add_le_add_right (Nat.le_of_lt_succ hk) _)

theorem decodeFrom_encodeChar (c : Char) (rest : Bytes) :
    decodeFrom none (String.utf8EncodeChar c ++ rest) = c :: decodeFrom none rest := by
  have hc : c.toNat < 0xd800 ∨ 0xdfff < c.toNat ∧ c.toNat < 0x110000 := c.valid
  have hn : c.val.toNat = c.toNat := rfl
  rw [String.utf8EncodeChar, hn]
  generalize hv : c.toNat = v at hc
  have ho : Char.ofNat v = c := hv ▸ Char.ofNat_toNat c
  -- The bits that are split over the bytes make up the number again.
  split
  case isTrue h => rw [List.cons_append, decodeFrom_one (by omega), ho, List.nil_append]
  split
  case isTrue h =>
    have hb : v / 64 % 32 * 64 + v % 64 = v := by omega
    simp only [List.cons_append, List.nil_append]
    rw [decodeFrom_two (by omega) (by omega), decodeFrom_last (by omega), hb, ho]
  split
  case isTrue h =>
    have hb : (v / 4096 % 16 * 64 + v / 64 % 64) * 64 + v % 64 = v := by omega
    simp only [List.cons_append, List.nil_append]
    rw [decodeFrom_three (by omega)]
    rw [decodeFrom_more (by omega) (by split <;> simp; omega) (by split <;> simp <;> omega), if_neg (by decide)]
    rw [decodeFrom_last (by omega), hb, ho]
  case isFalse h =>
    have hb : ((v / 262144 % 8 * 64 + v / 4096 % 64) * 64 + v / 64 % 64) * 64 + v % 64 = v := by omega
    simp only [List.cons_append, List.nil_append]
    rw [decodeFrom_four (by omega), decodeFrom_more (by omega) (by split <;> simp; omega) (by split <;> simp <;> omega),
      if_neg (by decide), decodeFrom_more (by omega) (Nat.le_add_left _ _) (by simp; omega), if_neg (by decide),
      decodeFrom_last (by omega), hb, ho]

theorem decode_encode (s : Text) : decode (encode s) = s := by
  unfold decode encode
  induction s
  case nil => rfl
  case cons c s hi => rw [List.flatMap_cons, decodeFrom_encodeChar, hi]

theorem decode?_encode (s : Text) : decode? (encode s) = some s := by
  rw [decode?, decode_encode, if_pos rfl]

-- The byte that ends lines.
def newline : UInt8 :=
  0x0a

theorem newline_ne_ofNat (hl : 0x80 ≤ n) (h : n < 256) : newline ≠ .ofNat n := by
  intro he
  have hn : newline.toNat = n := he ▸ UInt8.toNat_ofNat_of_lt h
  exact absurd (hn ▸ hl) (by decide)

theorem eq_of_newline_mem {c : Char} (h : newline ∈ String.utf8EncodeChar c) : c = '\n' := by
  have hn : c.val.toNat = c.toNat := rfl
  rw [String.utf8EncodeChar, hn] at h
  split at h
  case isTrue =>
    have hl : c.toNat < 256 := by omega
    have he : newline.toNat = c.toNat := List.mem_singleton.mp h ▸ UInt8.toNat_ofNat_of_lt hl
    exact (Char.ofNat_toNat c).symm.trans (he ▸ rfl)
  -- The bytes of longer forms are past those of the first half.
  split at h
  case isTrue =>
    simp only [List.mem_cons, List.not_mem_nil, or_false] at h
    rcases h with h | h <;> exact absurd h (newline_ne_ofNat (by omega) (by omega))
  split at h <;> simp only [List.mem_cons, List.not_mem_nil, or_false] at h
  case isTrue => rcases h with h | h | h <;> exact absurd h (newline_ne_ofNat (by omega) (by omega))
  case isFalse => rcases h with h | h | h | h <;> exact absurd h (newline_ne_ofNat (by omega) (by omega))

-- Only the character that ends lines has a form with that byte in it.
theorem newline_mem_encode {s : Text} : newline ∈ encode s ↔ '\n' ∈ s := by
  rw [encode, List.mem_flatMap]
  constructor
  · rintro ⟨c, hc, hn⟩
    exact eq_of_newline_mem hn ▸ hc
  · intro h
    exact ⟨'\n', h, List.mem_singleton_self _⟩

theorem encode_append (s t : Text) : encode (s ++ t) = encode s ++ encode t :=
  List.flatMap_append

end Copybook.Utf8
