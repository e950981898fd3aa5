import Copybook.Text

/-!
Byte strings: replacing a span, big-endian numbers, and hexadecimal text.
-/

namespace Copybook.Bytes

-- `new` in place of the bytes from `start` up to `stop`. A span that reaches past the end is clipped to
-- the bytes there are, so the result may be longer than `b`.
def splice (b : Bytes) (start stop : Nat) (new : Bytes) : Bytes :=
  b.take start ++ new ++ b.drop (max start stop)

theorem length_splice {b new : Bytes} {start : Nat} (h : start + new.length ≤ b.length) :
    (splice b start (start + new.length) new).length = b.length := by
  simp [splice]; omega

-- The bytes from `start` up to `stop`, as many of them as there are.
def slice (b : Bytes) (start stop : Nat) : Bytes :=
  (b.drop start).take (stop - start)

theorem slice_splice {b new : Bytes} {start : Nat} (stop : Nat) (h : start ≤ b.length) :
    slice (splice b start stop new) start (start + new.length) = new := by
  have : (b.take start).length = start := by simp; omega
  rw [slice, splice, List.append_assoc, List.drop_append_of_le_length (by omega)]
  have hd : (b.take start).drop start = [] := by simp
  simp [hd]

-- Cut or filled with low values to `length` bytes.
def fit (length : Nat) (b : Bytes) : Bytes :=
  b.take length ++ List.replicate (length - b.length) 0

@[simp]
theorem length_fit (length : Nat) (b : Bytes) : (fit length b).length = length := by
  simp [fit]; omega

-- The first `n` bytes and what follows them, if there are so many.
def cut? (n : Nat) (b : Bytes) : Option (Bytes × Bytes) :=
  let first := b.take n
  if first.length = n then some (first, b.drop n) else none

theorem cut?_eq_some_iff {n : Nat} {b first rest : Bytes} :
    cut? n b = some (first, rest) ↔ first.length = n ∧ b = first ++ rest := by
  rw [cut?]
  split <;> rename_i h
  · constructor
    · intro e
      obtain ⟨rfl, rfl⟩ := Prod.mk.inj (Option.some.inj e)
      exact ⟨h, (List.take_append_drop n b).symm⟩
    · rintro ⟨rfl, rfl⟩
      simp
  · constructor
    · simp
    · rintro ⟨rfl, rfl⟩
      simp at h

theorem cut?_append (first rest : Bytes) : cut? first.length (first ++ rest) = some (first, rest) :=
  cut?_eq_some_iff.2 ⟨rfl, rfl⟩

theorem length_of_cut? {n : Nat} {b first rest : Bytes} (h : cut? n b = some (first, rest)) :
    b.length = n + rest.length := by
  obtain ⟨rfl, rfl⟩ := cut?_eq_some_iff.1 h
  simp

-- The first `length` bytes of `b` over and over.
def cycle (b : Bytes) (length : Nat) : Bytes :=
  (List.replicate (length / max b.length 1 + 1) b).flatten.take length

-- The number whose big-endian bytes these are.
def toNat (b : Bytes) : Nat :=
  b.foldl (fun n byte => n * 256 + byte.toNat) 0

-- The lowest `width` bytes of a number, big-endian.
def ofNat : (width : Nat) → Nat → Bytes
  | 0, _ => []
  | width + 1, n => ofNat width (n / 256) ++ [UInt8.ofNat n]

@[simp]
theorem length_ofNat (width n : Nat) : (ofNat width n).length = width := by
  induction width generalizing n with
  | zero => rfl
  | succ width ih => simp [ofNat, ih]

theorem toNat_concat (b : Bytes) (byte : UInt8) : toNat (b ++ [byte]) = toNat b * 256 + byte.toNat := by
  simp [toNat]

theorem toNat_ofNat (width n : Nat) : toNat (ofNat width n) = n % 256 ^ width := by
  induction width generalizing n with
  | zero => simp [ofNat, toNat, Nat.mod_one]
  | succ width ih =>
    rw [ofNat, toNat_concat, ih, UInt8.toNat_ofNat', show 256 ^ (width + 1) = 256 * 256 ^ width from
      Nat.pow_succ', Nat.mod_mul]
    omega

-- The number whose two's complement these bytes are.
def toInt (b : Bytes) : Int :=
  if 2 * toNat b < 256 ^ b.length then toNat b else toNat b - 256 ^ b.length

-- The two's complement of a number in `width` bytes, if it fits.
def ofInt? (width : Nat) (i : Int) : Option Bytes :=
  if -(256 ^ width : Nat) ≤ 2 * i ∧ 2 * i < (256 ^ width : Nat) then
    some (ofNat width (i % (256 ^ width : Nat)).toNat)
  else none

-- The plain binary of a number in `width` bytes, if it fits.
def ofNat? (width : Nat) (n : Nat) : Option Bytes :=
  if n < 256 ^ width then some (ofNat width n) else none

def hexDigit (n : Nat) : Char :=
  Nat.digitChar (n % 16)

-- The lowest `width` hexadecimal digits of a number.
def hexDigits : (width : Nat) → Nat → Text
  | 0, _ => []
  | width + 1, n => hexDigits width (n / 16) ++ [hexDigit n]

-- Two hexadecimal digits a byte.
def toHex (b : Bytes) : Text :=
  b.flatMap fun byte => hexDigits 2 byte.toNat

def hexValue? (c : Char) : Option Nat :=
  if '0' ≤ c ∧ c ≤ '9' then some (c.toNat - '0'.toNat)
  else if 'a' ≤ c ∧ c ≤ 'f' then some (c.toNat - 'a'.toNat + 10)
  else if 'A' ≤ c ∧ c ≤ 'F' then some (c.toNat - 'A'.toNat + 10)
  else none

def ofHex? : Text → Option Bytes
  | [] => some []
  | [_] => none
  | high :: low :: rest => do
    let h ← hexValue? high
    let l ← hexValue? low
    let bytes ← ofHex? rest
    return UInt8.ofNat (h * 16 + l) :: bytes

end Copybook.Bytes
