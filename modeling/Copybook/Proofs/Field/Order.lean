import Mathlib
import Copybook.Proofs.Decimal.Order
import Copybook.Proofs.Field.Canonical
import Copybook.Proofs.Field.Rounding

/-!
Fields without a sign sort as their numbers do. Every storage form writes the digits of the stored integer in as many
places as the field has, the highest first, and its bytes stand in the order of the digits; so of two values the lesser
has the bytes that come first, and the same ones only if it is stored as the same integer.
-/

namespace Copybook

-- Of lists of one length, what is appended does not matter once they differ.
theorem append_lt_append {α : Type} [LT α] {l l' : List α} (hl : l.length = l'.length) (h : l < l') (r r' : List α) :
    l ++ r < l' ++ r' := by
  induction l generalizing l'
  case nil =>
    obtain rfl := List.eq_nil_of_length_eq_zero hl.symm
    exact absurd h (List.not_lt_nil [])
  case cons a l hi =>
    cases l'
    case nil => contradiction
    case cons a' l' =>
      refine List.cons_lt_cons_iff.mpr ((List.cons_lt_cons_iff.mp h).imp_right fun ⟨he, h⟩ => ⟨he, ?_⟩)
      exact hi (Nat.succ.inj hl) h

-- Numbers are written in a number of places, the highest first, with a sign for each digit.
structure Positional {α : Type} (base : Nat) (sign : Nat → α) (write : Nat → Nat → List α) : Prop where
  nil : ∀ n, write 0 n = []
  concat : ∀ width n, write (width + 1) n = write width (n / base) ++ [sign (n % base)]

namespace Positional

variable {α : Type} {base : Nat} {sign : Nat → α} {write : Nat → Nat → List α} (h : Positional base sign write)

include h

theorem length (width n : Nat) : (write width n).length = width := by
  induction width generalizing n
  case zero => rw [h.nil, List.length_nil]
  case succ width hi => rw [h.concat, List.length_append, hi, List.length_singleton]

-- If the signs stand in the order of the digits, numbers that have room stand in the order of what is written.
theorem lt [LT α] (hs : ∀ c d, c < d → d < base → sign c < sign d) {width m n : Nat} (hn : n < base ^ width)
    (hm : m < n) : write width m < write width n := by
  induction width generalizing m n
  case zero =>
    rw [Nat.pow_zero] at hn
    omega
  case succ width hi =>
    have hb : 0 < base := Nat.pos_of_ne_zero fun hz => by simp [hz] at hn
    have hq : n / base < base ^ width := Nat.div_lt_of_lt_mul (by rwa [←Nat.pow_succ'])
    rw [h.concat, h.concat]
    rcases Nat.lt_or_eq_of_le (Nat.div_le_div_right (c := base) hm.le) with hlt | heq
    case inl => exact append_lt_append (by rw [h.length, h.length]) (hi hq hlt) _ _
    case inr =>
      have hr : m % base < n % base := by
        have hm' := Nat.div_add_mod m base
        have hn' := Nat.div_add_mod n base
        rw [heq] at hm'
        omega
      rw [heq]
      exact List.append_left_lt <| List.cons_lt_cons_iff.mpr <| .inl <| hs _ _ hr (Nat.mod_lt n hb)

end Positional

namespace Text

theorem positional_lowDigits : Positional 10 id lowDigits :=
  ⟨fun _ => rfl, fun _ _ => rfl⟩

theorem positional_map {α : Type} (sign : Nat → α) : Positional 10 sign fun width n => (lowDigits width n).map sign :=
  ⟨fun _ => rfl, fun _ _ => by rw [lowDigits, List.map_append, List.map_singleton]⟩

end Text

namespace Bytes

theorem positional_ofNat : Positional 256 UInt8.ofNat ofNat :=
  ⟨fun _ => rfl, fun _ _ => by rw [ofNat, UInt8.ofNat_mod_size']⟩

theorem byte_lt {m n : Nat} (hm : m < n) (hn : n < 256) : UInt8.ofNat m < UInt8.ofNat n := by
  rw [UInt8.lt_iff_toNat_lt, UInt8.toNat_ofNat', UInt8.toNat_ofNat']
  omega

end Bytes

namespace Packed

-- Halves in order are bytes in order.
theorem join_lt : (hs hs' : List Nat) → (∀ h ∈ hs, h < 16) → (∀ h ∈ hs', h < 16) → hs.length = hs'.length →
    hs.length % 2 = 0 → hs < hs' → join hs < join hs'
  | [], hs', _, _, hl, _, h => by
    obtain rfl := List.eq_nil_of_length_eq_zero hl.symm
    exact absurd h (List.not_lt_nil [])
  | [_], _, _, _, _, he, _ => nomatch he
  | _ :: _ :: _, [], _, _, hl, _, _ => nomatch hl
  | _ :: _ :: _, [_], _, _, hl, _, _ => nomatch hl
  | high :: low :: rest, high' :: low' :: rest', hb, hb', hl, he, h => by
    simp only [List.forall_mem_cons] at hb hb'
    simp only [List.length_cons] at hl he
    rw [join, join, List.cons_lt_cons_iff]
    rcases List.cons_lt_cons_iff.mp h with hlt | ⟨rfl, hlow⟩
    · exact .inl (Bytes.byte_lt (by omega) (by omega))
    rcases List.cons_lt_cons_iff.mp hlow with hlt | ⟨rfl, hrest⟩
    · exact .inl (Bytes.byte_lt (by omega) (by omega))
    · exact .inr ⟨rfl, join_lt rest rest' hb.right.right hb'.right.right (by omega) (by omega) hrest⟩

end Packed

namespace CodePage

variable {page : CodePage}

-- The digits stand one after another in every code page.
theorem encodeChar?_digit (hu : page ≠ .utf16) :
    ∃ first < 0xf7, ∀ d < 10, page.encodeChar? (Nat.digitChar d) = some [UInt8.ofNat (first + d)] := by
  have digits {page : CodePage} {first : Nat}
      (h : ∀ d : Fin 10, page.encodeChar? (Nat.digitChar d) = some [UInt8.ofNat (first + d)]) (d : Nat) (hd : d < 10) :
      page.encodeChar? (Nat.digitChar d) = some [UInt8.ofNat (first + d)] :=
    h ⟨d, hd⟩
  cases page
  case cp037 | cp500 | cp1140 => exact ⟨0xf0, by decide, digits (by decide +kernel)⟩
  case ascii | latin1 | utf8 => exact ⟨0x30, by decide, digits (by decide +kernel)⟩
  case utf16 => contradiction

theorem encode?_map {α : Type} {char : α → Char} {byte : α → UInt8} {as : List α}
    (h : ∀ a ∈ as, page.encodeChar? (char a) = some [byte a]) : page.encode? (as.map char) = some (as.map byte) := by
  induction as
  case nil => rfl
  case cons a as hi =>
    obtain ⟨ha, has⟩ := List.forall_mem_cons.mp h
    obtain ⟨pieces, hp, hj⟩ := Option.map_eq_some_iff.mp (hi has)
    simp [encode?, ha, hp, ←hj]

end CodePage

namespace FieldType

open Text

variable {codec : Codec} {page : CodePage} {storage : Storage} {shape : NumberShape} {m n : Nat} {b b' : Bytes}

theorem zoned_eq (hs : ¬shape.signed) (hn : n < 10 ^ shape.digits) (hw : isWritable codec.digitLimit n) :
    Zoned.digits codec shape n = .ok ((lowDigits (max 1 shape.digits) n).map Nat.digitChar) := by
  have ⟨width, hd⟩ : ∃ width, max 1 shape.digits = width + 1 := ⟨max 1 shape.digits - 1, by omega⟩
  rw [Zoned.digits_eq (n := n) hd hn hw, hd, lowDigits, List.map_append, List.map_singleton, Zoned.lastChar, if_neg hs,
    Int.natAbs_natCast]

theorem zoned_lt (hc : codec.Plain) (hp : CodePage.ofName? codec.page = some page) (hu : page ≠ .utf16)
    (hs : ¬shape.signed) (hlt : m < n) (hn : n < 10 ^ shape.digits) (hb : Zoned.encode codec shape m = .ok b)
    (hb' : Zoned.encode codec shape n = .ok b') : b < b' := by
  have ⟨first, hf, hd⟩ := CodePage.encodeChar?_digit hu
  have bytes {k : Nat} {b : Bytes} (hk : k < 10 ^ shape.digits) (hb : Zoned.encode codec shape k = .ok b) :
      b = (lowDigits (max 1 shape.digits) k).map fun d => UInt8.ofNat (first + d) := by
    have hw := (writable_of_encodeStored (show encodeStored codec shape k .zoned = .ok b from hb)).resolve_left nofun
    rw [Zoned.encode, zoned_eq hs hk hw, ok_bind] at hb
    have he := CodePage.encode?_map fun d (hm : d ∈ lowDigits (max 1 shape.digits) k) => hd d (lt_of_mem_lowDigits hm)
    exact Option.some.inj <| ((Codec.encode_eq_ok_iff hc hp).mp hb).symm.trans he
  rw [bytes (hlt.trans hn) hb, bytes hn hb']
  refine (positional_map _).lt (fun c d hcd hd => Bytes.byte_lt (by omega) (by omega)) ?_ hlt
  exact hn.trans_le (Nat.pow_le_pow_right (by decide) (by omega))

theorem packed_lt (hlt : m < n) (hn : n < 10 ^ shape.digits) (hb : Packed.encode codec shape m = .ok b)
    (hb' : Packed.encode codec shape n = .ok b') : b < b' := by
  have bytes {k : Nat} {b : Bytes} (hk : k < 10 ^ shape.digits) (hb : Packed.encode codec shape k = .ok b) :
      b = Packed.join (lowDigits (2 * (shape.digits / 2) + 1) k ++ [0xc]) := by
    have hw := (writable_of_encodeStored (show encodeStored codec shape k .packed = .ok b from hb)).resolve_left nofun
    rw [Packed.encode_eq (n := k) hk hw] at hb
    have hz : ¬(k : Int) < 0 := Int.not_lt.mpr (Int.natCast_nonneg k)
    simpa [hz] using (Except.ok.inj hb).symm
  have halves (k : Nat) : ∀ h ∈ lowDigits (2 * (shape.digits / 2) + 1) k ++ [0xc], h < 16 := by
    intro h hm
    rcases List.mem_append.mp hm with hm | hm
    · have := lt_of_mem_lowDigits hm
      omega
    · rw [List.mem_singleton.mp hm]
      decide
  rw [bytes (hlt.trans hn) hb, bytes hn hb']
  refine Packed.join_lt _ _ (halves m) (halves n) (by simp) (by simp; omega) ?_
  exact append_lt_append (by simp) (positional_lowDigits.lt (fun _ _ h _ => h) (Packed.lt_pow_halves hn) hlt) _ _

theorem binary_lt (hs : ¬shape.signed) (hlt : m < n) (hb : encodeBinary shape m = .ok b)
    (hb' : encodeBinary shape n = .ok b') : b < b' := by
  have bytes {k : Nat} {b : Bytes} (hb : encodeBinary shape k = .ok b) :
      k < 256 ^ Storage.binary.length shape.digits ∧ b = Bytes.ofNat (Storage.binary.length shape.digits) k := by
    simp only [encodeBinary, if_neg hs, Int.toNat_natCast, Bytes.ofNat?] at hb
    split at hb <;> cases hb
    split at * <;> simp_all
  obtain ⟨_, rfl⟩ := bytes hb
  obtain ⟨hn, rfl⟩ := bytes hb'
  exact Bytes.positional_ofNat.lt (fun _ _ => Bytes.byte_lt) hn hlt

-- Numbers without a sign are stored as bytes in their order.
theorem encodeStored_lt (hc : codec.Plain) (hp : CodePage.ofName? codec.page = some page) (hu : page ≠ .utf16)
    (hs : ¬shape.signed) (hlt : m < n) (hn : n < 10 ^ shape.digits) (hb : encodeStored codec shape m storage = .ok b)
    (hb' : encodeStored codec shape n storage = .ok b') : b < b' := by
  cases storage
  case zoned => exact zoned_lt hc hp hu hs hlt hn hb hb'
  case packed => exact packed_lt hlt hn hb hb'
  case binary => exact binary_lt hs hlt hb hb'

end FieldType

namespace NumberShape

open Decimal Text

variable {shape : NumberShape} {v w : Value} {d e : Decimal} {m n : Int}

-- A value that is not less than another is not stored as less.
theorem stored_mono (hv : number v = .ok d) (hw : number w = .ok e) (h : d.toRat ≤ e.toRat)
    (hm : shape.stored v = .ok m) (hn : shape.stored w = .ok n) : m ≤ n := by
  obtain ⟨hf, hu⟩ := units_of_stored hv hm
  obtain ⟨hf', hu'⟩ := units_of_stored hw hn
  cases d <;> simp only [isFinite, Bool.false_eq_true] at hf
  cases e <;> simp only [isFinite, Bool.false_eq_true] at hf'
  case finite.finite negative c k negative' c' k' =>
    have room {negative : Bool} {c : Nat} {k n : Int} {v : Value} (hu : shape.units (.finite negative c k) = .ok n)
        (hn : shape.stored v = .ok n) (hc : 0 < c) :
        digitCount c + (k + shape.fracDigits) + 2 ≤ shape.precision.digits := by
      refine digitCount_add_le hc ?_
      rw [←natAbs_signed negative (shape.whole c k), signed_whole_of_units hu]
      exact (fits_of_stored hn).left
    rw [←signed_whole_of_units hu, ←signed_whole_of_units hu']
    refine signed_whole_mono (Precision.ofDigits_usable _) (room hu hm) (room hu' hn) ?_
    rw [←toRat_mul_pow, ←toRat_mul_pow]
    exact mul_le_mul_of_nonneg_right h (pow_nonneg (by decide) _)

end NumberShape

namespace FieldType

variable {codec : Codec} {page : CodePage} {storage : Storage} {shape : NumberShape} {v w : Value} {d e : Decimal}
variable {b b' : Bytes}

-- The bytes of two values in a field without a sign stand in the order of the values, however many digits these have.
-- They are the same exactly if the values are rounded to one integer.
theorem encode_ordered (hc : codec.Plain) (hp : CodePage.ofName? codec.page = some page) (hu : page ≠ .utf16)
    (hs : ¬shape.signed) (hv : NumberShape.number v = .ok d) (hw : NumberShape.number w = .ok e)
    (h : d.toRat ≤ e.toRat) (hb : encode (.number storage shape) codec v = .ok b)
    (hb' : encode (.number storage shape) codec w = .ok b') :
    ∃ m n, shape.stored v = .ok m ∧ shape.stored w = .ok n ∧ m ≤ n ∧ b ≤ b' ∧ (b = b' ↔ m = n) := by
  have ⟨m, hm, he⟩ := bind_eq_ok_iff.mp hb
  have ⟨n, hn, he'⟩ := bind_eq_ok_iff.mp hb'
  have hle := NumberShape.stored_mono hv hw h hm hn
  obtain ⟨hfit, hpos⟩ := NumberShape.fits_of_stored hn
  obtain ⟨m', rfl⟩ := Int.eq_ofNat_of_zero_le ((NumberShape.fits_of_stored hm).right.resolve_right hs)
  obtain ⟨n', rfl⟩ := Int.eq_ofNat_of_zero_le (hpos.resolve_right hs)
  refine ⟨m', n', hm, hn, hle, ?_⟩
  rcases Nat.lt_or_eq_of_le (Int.ofNat_le.mp hle) with hlt | rfl
  case inl =>
    have hbb := encodeStored_lt hc hp hu hs hlt hfit he he'
    refine ⟨List.le_of_lt hbb, iff_of_false (fun hz => ?_) (by omega)⟩
    exact List.lt_irrefl b' (hz ▸ hbb)
  case inr =>
    cases he.symm.trans he'
    exact ⟨List.le_refl b, iff_of_true rfl rfl⟩

-- `99.949` is rounded down and `99.95` up to the next digit.
theorem neighbours_ordered :
    encode (.number .packed ⟨3, 1, false⟩) {} (.text "99.949".toList) = .ok [0x00, 0x99, 0x9c] ∧
    encode (.number .packed ⟨3, 1, false⟩) {} (.decimal (.finite false 9995 (-2))) = .ok [0x01, 0x00, 0x0c] ∧
    ∃ m n, NumberShape.stored ⟨3, 1, false⟩ (.text "99.949".toList) = .ok m ∧
      NumberShape.stored ⟨3, 1, false⟩ (.decimal (.finite false 9995 (-2))) = .ok n ∧ m ≤ n ∧
      ([0x00, 0x99, 0x9c] : Bytes) ≤ [0x01, 0x00, 0x0c] ∧
      (([0x00, 0x99, 0x9c] : Bytes) = [0x01, 0x00, 0x0c] ↔ m = n) := by
  have hv : NumberShape.number (.text "99.949".toList) = .ok (.finite false 99949 (-3)) :=
    toOption_eq_some_iff.mp (by decide +kernel)
  have hb : encode (.number .packed ⟨3, 1, false⟩) {} (.text "99.949".toList) = .ok [0x00, 0x99, 0x9c] :=
    toOption_eq_some_iff.mp (by decide +kernel)
  have hb' : encode (.number .packed ⟨3, 1, false⟩) {} (.decimal (.finite false 9995 (-2))) =
      .ok [0x01, 0x00, 0x0c] :=
    toOption_eq_some_iff.mp (by decide +kernel)
  have hp : CodePage.ofName? ({} : Codec).page = some .cp037 := by cbv
  have h : (Decimal.finite false 99949 (-3)).toRat ≤ (Decimal.finite false 9995 (-2)).toRat := by
    norm_num [Decimal.toRat]
  exact ⟨hb, hb', encode_ordered ⟨rfl, rfl⟩ hp (by decide) (by decide) hv rfl h hb hb'⟩

end FieldType

end Copybook
