import Mathlib
import Copybook.Field
import Copybook.Proofs.Text.Digits

/-!
Packed numbers: the digits that are packed two a byte are read back, and the sign after them.
-/

namespace Copybook.Packed

open Text

theorem length_join : (hs : List Nat) → (join hs).length = hs.length / 2
  | [] => rfl
  | [_] => by simp [join]
  | h :: l :: rest => by
    rw [join, List.length_cons, length_join rest, List.length_cons, List.length_cons]
    omega

theorem toNat_joined {high low : Nat} (hh : high < 16) (hl : low < 16) :
    (UInt8.ofNat (high * 16 + low)).toNat = high * 16 + low := by
  rw [UInt8.toNat_ofNat']
  omega

theorem halves_cons {b : Bytes} (byte : UInt8) (h : b ≠ []) :
    halves (byte :: b) = (byte, byte.toNat / 16) :: (byte, byte.toNat % 16) :: halves b := by
  cases b
  case nil => contradiction
  case cons => rfl

-- The halves that are joined are the ones that are read, but for the last one, which is the sign.
theorem halves_join : (digits : List Nat) → (s : Nat) → (∀ d ∈ digits, d < 16) → s < 16 →
    digits.length % 2 = 1 → (halves (join (digits ++ [s]))).map Prod.snd = digits
  | [], _, _, _, h => nomatch h
  | [d], s, hd, hs, _ => by
    have hd := hd d (by simp)
    simp only [List.cons_append, List.nil_append, join, halves, List.map_cons, List.map_nil, toNat_joined hd hs]
    rw [show (d * 16 + s) / 16 = d by omega]
  | d :: e :: rest, s, hd, hs, h => by
    have hl : rest.length % 2 = 1 := by
      simp only [List.length_cons] at h
      omega
    have hr : join (rest ++ [s]) ≠ [] := by
      refine List.ne_nil_of_length_pos ?_
      rw [length_join, List.length_append, List.length_singleton]
      omega
    have hi := halves_join rest s (fun x hx => hd x (by simp [hx])) hs hl
    have hd' := hd d (by simp)
    have he' := hd e (by simp)
    simp only [List.cons_append, join, halves_cons _ hr, List.map_cons, hi, toNat_joined hd' he']
    rw [show (d * 16 + e) / 16 = d by omega, show (d * 16 + e) % 16 = e by omega]

theorem getLast?_join : (digits : List Nat) → (s : Nat) → (∀ d ∈ digits, d < 16) → s < 16 →
    digits.length % 2 = 1 → ((join (digits ++ [s])).getLast?.map fun byte => byte.toNat % 16) = some s
  | [], _, _, _, h => nomatch h
  | [d], s, hd, hs, _ => by
    have hd := hd d (by simp)
    simp only [List.cons_append, List.nil_append, join, List.getLast?_singleton, Option.map_some,
      toNat_joined hd hs]
    rw [show (d * 16 + s) % 16 = s by omega]
  | d :: e :: rest, s, hd, hs, h => by
    have hl : rest.length % 2 = 1 := by
      simp only [List.length_cons] at h
      omega
    have hi := getLast?_join rest s (fun x hx => hd x (by simp [hx])) hs hl
    have ⟨byte, hb, _⟩ := Option.map_eq_some_iff.mp hi
    rw [List.cons_append, List.cons_append, join, List.getLast?_cons, hb, ←hi, hb]
    rfl

-- Halves that are digits are read as the number of those digits.
theorem readFrom_eq (n : Nat) {hs : List (UInt8 × Nat)} (h : ∀ d ∈ hs.map Prod.snd, d < 10) :
    readFrom n hs = .ok ((hs.map Prod.snd).foldl (fun n d => n * 10 + d) n) := by
  induction hs generalizing n
  case nil => rfl
  case cons p hs hi =>
    have ⟨byte, half⟩ := p
    have hh : half < 10 := h half (by simp)
    rw [readFrom, if_pos (by omega), hi _ fun d hd => h d (by simp [hd])]
    rfl

theorem decode_join {digits : List Nat} (negative : Bool) (hd : ∀ d ∈ digits, d < 10)
    (hl : digits.length % 2 = 1) :
    decode (join (digits ++ [if negative then 0xd else 0xc])) =
      .ok (if negative then -(ofDigits digits : Int) else ofDigits digits) := by
  have hd' : ∀ d ∈ digits, d < 16 := fun d h => by
    have := hd d h
    omega
  have hs : (if negative then 0xd else 0xc) < 16 := by split <;> decide
  have hh := halves_join digits _ hd' hs hl
  have ⟨byte, hb, hn⟩ := Option.map_eq_some_iff.mp <| getLast?_join digits _ hd' hs hl
  have hs : isNegative (join (digits ++ [if negative then 0xd else 0xc])) = negative := by
    rw [isNegative, hb, Option.any_some, hn]
    cases negative <;> rfl
  rw [decode, readFrom_eq 0 (by rwa [hh]), hh, hs]
  rfl

-- The halves before the sign have room for the digits of the field, with one to spare if their number is even.
theorem lt_pow_halves {m digits : Nat} (h : m < 10 ^ digits) : m < 10 ^ (2 * (digits / 2) + 1) :=
  Nat.lt_of_lt_of_le h <| Nat.pow_le_pow_right (by decide) (by omega)

-- The halves before the sign: as many as fill the bytes of the field.
theorem encode_eq {codec : Codec} {shape : NumberShape} {n : Int} (hn : n.natAbs < 10 ^ shape.digits)
    (hw : isWritable codec.digitLimit n.natAbs) :
    encode codec shape n = .ok (join
      (lowDigits (2 * (shape.digits / 2) + 1) n.natAbs ++ [if decide (n < 0) then 0xd else 0xc])) := by
  have hl : 2 * Storage.packed.length shape.digits - 1 = 2 * (shape.digits / 2) + 1 := by
    simp only [Storage.length]
    omega
  simp only [encode, writeNat_eq_ok hw, hl, Except.mapError, bind, Except.bind]
  rw [digitValues_padLeft (by omega) (lt_pow_halves hn)]
  simp [pure, Except.pure]

theorem encode_round_trip {codec : Codec} {shape : NumberShape} {n : Int} (hn : n.natAbs < 10 ^ shape.digits)
    (hw : isWritable codec.digitLimit n.natAbs) :
    ∃ b, encode codec shape n = .ok b ∧ b.length = Storage.packed.length shape.digits ∧ decode b = .ok n := by
  refine ⟨_, encode_eq hn hw, ?_, ?_⟩
  · rw [length_join, List.length_append, length_lowDigits, List.length_singleton, Storage.length]
    omega
  · rw [decode_join _ (fun _ => lt_of_mem_lowDigits) (by rw [length_lowDigits]; omega),
      ofDigits_lowDigits (lt_pow_halves hn)]
    by_cases h : n < 0 <;> simp only [h, decide_true, decide_false, if_true, if_false, Bool.false_eq_true] <;>
      congr 1 <;> omega

end Copybook.Packed
