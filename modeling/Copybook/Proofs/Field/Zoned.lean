import Mathlib
import Copybook.Field
import Copybook.Proofs.CodePage
import Copybook.Proofs.Codec
import Copybook.Proofs.Text.Digits

/-!
Zoned numbers: the digits are read back from their characters, and the sign from the character of the last one.
-/

namespace Copybook.Zoned

open Text

-- The character of a digit that is the last one of a signed number.
def signedDigit (negative : Bool) (d : Nat) : Char :=
  ((if negative then negativeDigits else positiveDigits)[d]?).getD ' '

theorem idxOf?_digitChar {d : Nat} (h : d < 10) : plainDigits.idxOf? (Nat.digitChar d) = some d := by
  have all : ∀ d : Fin 10, plainDigits.idxOf? (Nat.digitChar d) = some d.val := by decide
  exact all ⟨d, h⟩

theorem digitChar_mem {d : Nat} (h : d < 10) : Nat.digitChar d ∈ CodePage.numeric := by
  have all : ∀ d : Fin 10, Nat.digitChar d ∈ CodePage.numeric := by decide
  exact all ⟨d, h⟩

theorem signedDigit_mem (negative : Bool) {d : Nat} (h : d < 10) : signedDigit negative d ∈ CodePage.numeric := by
  have all : ∀ negative, ∀ d : Fin 10, signedDigit negative d ∈ CodePage.numeric := by decide
  exact all negative ⟨d, h⟩

theorem mark_digitChar (atEnd : Bool) {d : Nat} (h : d < 10) (byte : UInt8) :
    mark atEnd (Nat.digitChar d) byte = .ok (.digit d) := by
  simp [mark, idxOf?_digitChar h]

theorem mark_signedDigit (atEnd negative : Bool) {d : Nat} (h : d < 10) (byte : UInt8) :
    mark atEnd (signedDigit negative d) byte = .ok (if negative then .negativeDigit d else .digit d) := by
  have all : ∀ negative, ∀ d : Fin 10,
      plainDigits.idxOf? (signedDigit negative d) = none ∧
        positiveDigits.idxOf? (signedDigit negative d) = (if negative then none else some d.val) ∧
        (negative → negativeDigits.idxOf? (signedDigit negative d) = some d.val) := by decide
  have ⟨hp, hs, hn⟩ := all negative ⟨d, h⟩
  cases negative
  case false =>
    simp only [Bool.false_eq_true, if_false] at hs
    simp only [mark, hp, hs, Bool.false_eq_true, if_false]
  case true =>
    simp only [if_true] at hs
    simp only [mark, hp, hs, hn rfl, if_true]

theorem overpunch_concat (negative : Bool) (s : Text) {d : Nat} (h : d < 10) :
    overpunch negative (s ++ [Nat.digitChar d]) = s ++ [signedDigit negative d] := by
  have all : ∀ negative, ∀ d : Fin 10,
      (if negative then negativeDigits else positiveDigits)[d.val]? = some (signedDigit negative d) := by decide
  have hd := all negative ⟨d, h⟩
  simp only at hd
  simp [overpunch, idxOf?_digitChar h, hd]

-- Digits are read as the number of those digits, whatever comes after them.
theorem readFrom_digits (last : Nat) {digits : List Nat} (hd : ∀ d ∈ digits, d < 10) {bytes : Bytes}
    (hl : bytes.length = digits.length) (rest : List (Char × UInt8)) (position n : Nat) (negative : Bool) :
    readFrom last position negative n ((digits.map Nat.digitChar).zip bytes ++ rest) =
      readFrom last (position + digits.length) negative (digits.foldl (fun n d => n * 10 + d) n) rest := by
  induction digits generalizing bytes position n
  case nil => rfl
  case cons d digits hi =>
    cases bytes
    case nil => contradiction
    case cons byte bytes =>
      rw [List.map_cons, List.zip_cons_cons, List.cons_append, readFrom, mark_digitChar _ (hd d (by simp))]
      simp only [bind, Except.bind]
      rw [hi (fun x hx => hd x (by simp [hx])) (by simpa using hl), List.length_cons, List.foldl_cons,
        Nat.add_right_comm, Nat.add_assoc]

-- The character of the last digit.
def lastChar (shape : NumberShape) (n : Int) : Char :=
  if shape.signed then signedDigit (decide (n < 0)) (n.natAbs % 10) else Nat.digitChar (n.natAbs % 10)

variable {shape : NumberShape} {n : Int}

theorem lastChar_mem (shape : NumberShape) (n : Int) : lastChar shape n ∈ CodePage.numeric := by
  have hd : n.natAbs % 10 < 10 := Nat.mod_lt _ (by decide)
  unfold lastChar
  split
  · exact signedDigit_mem _ hd
  · exact digitChar_mem hd

theorem mark_lastChar (hg : 0 ≤ n ∨ shape.signed) (atEnd : Bool) (byte : UInt8) :
    mark atEnd (lastChar shape n) byte =
      .ok (if n < 0 then .negativeDigit (n.natAbs % 10) else .digit (n.natAbs % 10)) := by
  have hd : n.natAbs % 10 < 10 := Nat.mod_lt _ (by decide)
  unfold lastChar
  by_cases hs : shape.signed
  case pos => simp [hs, mark_signedDigit _ _ hd]
  case neg =>
    have hn : ¬n < 0 := by simpa [hs] using hg
    simp [hs, hn, mark_digitChar _ hd]

-- The digits of a field, or the one of zero if the field has none, with the sign over the last of them.
theorem digits_eq {codec : Codec} {width : Nat} (hw : max 1 shape.digits = width + 1)
    (hn : n.natAbs < 10 ^ shape.digits) (hl : isWritable codec.digitLimit n.natAbs) :
    digits codec shape n =
      .ok ((lowDigits width (n.natAbs / 10)).map Nat.digitChar ++ [lastChar shape n]) := by
  have hd : n.natAbs % 10 < 10 := Nat.mod_lt _ (by decide)
  simp only [digits, writeNat_eq_ok hl, Except.mapError, bind, Except.bind]
  rw [padLeft_ofNat hn, hw, lowDigits, List.map_append, List.map_singleton, overpunch_concat _ _ hd]
  unfold lastChar
  split <;> rfl

theorem mem_numeric {width m : Nat} {c : Char}
    (h : c ∈ (lowDigits width m).map Nat.digitChar ++ [lastChar shape n]) : c ∈ CodePage.numeric := by
  cases List.mem_append.mp h
  case inl h =>
    have ⟨d, hd, he⟩ := List.mem_map.mp h
    exact he ▸ digitChar_mem (lt_of_mem_lowDigits hd)
  case inr h => exact List.mem_singleton.mp h ▸ lastChar_mem shape n

theorem readFrom_lastChar (hg : 0 ≤ n ∨ shape.signed) (last position m : Nat) (byte : UInt8) :
    readFrom last position false m [(lastChar shape n, byte)] =
      .ok (decide (n < 0), m * 10 + n.natAbs % 10) := by
  rw [readFrom, mark_lastChar hg]
  by_cases h : n < 0 <;> simp [h, bind, Except.bind, readFrom]

theorem decode_eq {codec : Codec} {width : Nat} {b : Bytes} (hw : shape.digits = width + 1)
    (hn : n.natAbs < 10 ^ shape.digits) (hg : 0 ≤ n ∨ shape.signed) (hl : b.length = width + 1)
    (hb : codec.decode b = .ok ((lowDigits width (n.natAbs / 10)).map Nat.digitChar ++ [lastChar shape n])) :
    decode codec b = .ok n := by
  have ⟨bytes, byte, he⟩ := (List.eq_nil_or_concat b).resolve_left <| List.ne_nil_of_length_pos (by omega)
  have hl : bytes.length = (lowDigits width (n.natAbs / 10)).length := by simpa [he] using hl
  have hq : n.natAbs / 10 < 10 ^ width := by
    rw [hw, Nat.pow_succ] at hn
    omega
  have hf : (lowDigits width (n.natAbs / 10)).foldl (fun n d => n * 10 + d) 0 = n.natAbs / 10 :=
    ofDigits_lowDigits hq
  rw [decode, hb]
  simp only [bind, Except.bind, he, List.concat_eq_append]
  rw [List.zip_append (by simp [hl]), readFrom_digits _ (fun _ => lt_of_mem_lowDigits) hl, hf,
    List.zip_cons_cons, List.zip_nil_left, readFrom_lastChar hg]
  by_cases h : n < 0 <;>
    simp only [h, decide_true, decide_false, if_true, if_false, Bool.false_eq_true, pure, Except.pure,
      Except.ok.injEq] <;> omega

theorem encode_round_trip {codec : Codec} {page : CodePage} (hc : codec.Plain)
    (hp : CodePage.ofName? codec.page = some page) (hu : page ≠ .utf16) (hs : 0 < shape.digits)
    (hn : n.natAbs < 10 ^ shape.digits) (hg : 0 ≤ n ∨ shape.signed) (hl : isWritable codec.digitLimit n.natAbs) :
    ∃ b, encode codec shape n = .ok b ∧ b.length = shape.digits ∧ decode codec b = .ok n := by
  have ⟨width, hw⟩ : ∃ width, shape.digits = width + 1 := ⟨shape.digits - 1, by omega⟩
  have hw' : max 1 shape.digits = width + 1 := by omega
  have hm : ∀ c ∈ (lowDigits width (n.natAbs / 10)).map Nat.digitChar ++ [lastChar shape n], page.Narrow c :=
    fun _ h => CodePage.narrow_of_mem_numeric hu <| mem_numeric h
  have ⟨b, hb, hbl, hbd⟩ := CodePage.encode?_of_narrow hm
  have hbl : b.length = width + 1 := by simpa using hbl
  refine ⟨b, ?_, by rw [hbl, hw], decode_eq hw hn hg hbl ?_⟩
  · rw [encode, digits_eq hw' hn hl]
    exact (Codec.encode_eq_ok_iff hc hp).mpr hb
  · rw [Codec.decode_eq hc hp, hbd]

end Copybook.Zoned
