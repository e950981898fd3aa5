import Copybook.Proofs.Field.Width
import Copybook.Proofs.Text.Trim

/-!
Text fields in code pages with one byte for each character: what is stored is read back with blanks after it, up to
the length of the field. In the pages that have a character for each byte, all bytes of a field are those of the text
that is read from them.
-/

namespace Copybook

namespace CodePage

variable {page : CodePage} {chars : List Char} {s : Text} {b : Bytes}

theorem decode_append (hp : page.chars? = some chars) (a b : Bytes) :
    page.decode (a ++ b) = page.decode a ++ page.decode b := by
  simp [decode, hp]

theorem length_decode (hp : page.chars? = some chars) (b : Bytes) : (page.decode b).length = b.length := by
  simp [decode, hp]

theorem length_chars_le (hp : page.chars? = some chars) : chars.length ≤ 256 := by
  cases page <;> cases hp
  case cp037 => exact Nat.le_of_eq <| length_variant _
  case cp500 => exact Nat.le_of_eq <| length_variant _
  case cp1140 => exact Nat.le_of_eq <| length_variant _
  case ascii => simp [asciiChars]
  case latin1 => simp [latin1Chars]

theorem ne_utf16_of_chars? (hp : page.chars? = some chars) : page ≠ .utf16 := by
  rintro rfl
  contradiction

theorem narrow_of_encodeChar? {c : Char} (hp : page.chars? = some chars) (h : (page.encodeChar? c).isSome) :
    page.Narrow c := by
  refine narrow_of_mem_chars hp (length_chars_le hp) ?_
  simpa [encodeChar?, hp, List.isSome_idxOf?] using h

theorem mem_chars_of_narrow {c : Char} (hp : page.chars? = some chars) (h : page.Narrow c) : c ∈ chars := by
  obtain ⟨byte, hb, -⟩ := h
  rw [encodeChar?, hp] at hb
  obtain ⟨i, hi, -⟩ := Option.map_eq_some_iff.mp hb
  exact List.isSome_idxOf?.mp (Option.isSome_of_mem hi)

theorem narrow_iff {c : Char} (hp : page.chars? = some chars) : page.Narrow c ↔ c ∈ chars :=
  ⟨mem_chars_of_narrow hp, narrow_of_mem_chars hp (length_chars_le hp)⟩

-- Whether numbers differ from one another and from those that are the bits of `seen`.
def areDistinct (seen : Nat) : List Nat → Bool
  | [] => true
  | n :: ns => !seen.testBit n && areDistinct (seen ||| 1 <<< n) ns

theorem nodup_of_areDistinct {seen : Nat} {ns : List Nat} (h : areDistinct seen ns) :
    ns.Nodup ∧ ∀ n ∈ ns, seen.testBit n = false := by
  induction ns generalizing seen
  case nil => exact ⟨.nil, nofun⟩
  case cons n ns hi =>
    obtain ⟨hn, hns⟩ := Bool.and_eq_true_iff.mp h
    obtain ⟨hd, hs⟩ := hi hns
    have hs' (m : Nat) (hm : m ∈ ns) : seen.testBit m = false ∧ n ≠ m := by
      simpa [Nat.testBit_or, Nat.one_shiftLeft, Nat.testBit_two_pow] using hs m hm
    refine ⟨List.nodup_cons.mpr ⟨fun hm => (hs' n hm).right rfl, hd⟩, ?_⟩
    exact List.forall_mem_cons.mpr ⟨by simpa using hn, fun m hm => (hs' m hm).left⟩

-- No two bytes have one character.
theorem nodup_chars (hp : page.chars? = some chars) : chars.Nodup := by
  have distinct {chars : List Char} (h : areDistinct 0 (chars.map Char.toNat)) : chars.Nodup :=
    .of_map Char.toNat (nodup_of_areDistinct h).left
  cases page <;> cases hp
  case cp037 => exact distinct (by decide +kernel)
  case cp500 => exact distinct (by decide +kernel)
  case cp1140 => exact distinct (by decide +kernel)
  case ascii => exact distinct (by decide +kernel)
  case latin1 => exact distinct (by decide +kernel)

theorem length_chars (hp : page.chars? = some chars) (ha : page ≠ .ascii) : chars.length = 256 := by
  cases page <;> cases hp
  case cp037 => exact length_variant _
  case cp500 => exact length_variant _
  case cp1140 => exact length_variant _
  case ascii => contradiction
  case latin1 => simp [latin1Chars]

-- A byte that has a character is the byte of that character.
theorem encodeChar?_getElem (hp : page.chars? = some chars) {byte : UInt8} (h : byte.toNat < chars.length) :
    page.encodeChar? chars[byte.toNat] = some [byte] := by
  have hi : chars.idxOf? chars[byte.toNat] = some byte.toNat := by
    refine List.idxOf?_eq_some_iff.mpr ⟨h, rfl, fun j hj he => ?_⟩
    exact absurd ((nodup_chars hp).getElem_inj_iff.mp he) (Nat.ne_of_lt hj)
  rw [encodeChar?, hp]
  simp only [hi, Option.map_some, UInt8.ofNat_toNat]

theorem encode?_decode (hp : page.chars? = some chars) (ha : page ≠ .ascii) (b : Bytes) :
    page.encode? (page.decode b) = some b := by
  induction b
  case nil =>
    rw [decode, hp]
    rfl
  case cons byte b hi =>
    have hb : byte.toNat < chars.length := length_chars hp ha ▸ byte.toNat_lt
    have hd : page.decode (byte :: b) = chars[byte.toNat] :: page.decode b := by
      simp [decode, hp, hb]
    obtain ⟨pieces, hm, he⟩ := Option.map_eq_some_iff.mp hi
    rw [hd, encode?, List.mapM_cons, encodeChar?_getElem hp hb, hm]
    simp [he]

theorem narrow_of_encode? (hp : page.chars? = some chars) (h : page.encode? s = some b) : ∀ c ∈ s, page.Narrow c := by
  have ⟨pieces, hm, he⟩ := Option.map_eq_some_iff.mp h
  clear h he
  induction s generalizing pieces
  case nil => exact nofun
  case cons c s hi =>
    rw [List.mapM_cons] at hm
    have ⟨piece, hc, hm⟩ := Option.bind_eq_some_iff.mp hm
    have ⟨rest, hs, _⟩ := Option.bind_eq_some_iff.mp hm
    exact List.forall_mem_cons.mpr ⟨narrow_of_encodeChar? hp (Option.isSome_of_mem hc), hi rest hs⟩

end CodePage

namespace FieldType

-- The blanks that fill a field are padding.
theorem dropRight_fill (s : Text) (k : Nat) :
    Text.dropRight isPadding (s ++ List.replicate k ' ') = Text.dropRight isPadding s :=
  Text.dropRight_append_of_all s fun _ h => List.eq_of_mem_replicate h ▸ by decide

variable {codec : Codec} {page : CodePage} {chars : List Char} {s : Text} {b : Bytes} {length : Nat}
  (hc : codec.Plain) (hp : CodePage.ofName? codec.page = some page)

include hc hp

theorem decodeText_eq (b : Bytes) : decodeText codec b =
    .ok (if codec.trim then Text.dropRight isPadding (page.decode b) else page.decode b) := by
  rw [decodeText, Codec.decode_eq hc hp]
  rfl

variable (hs : page.chars? = some chars)

include hs

-- Text is stored if the code page has its characters and the field has room for them.
theorem encodeText_of_narrow (hn : ∀ c ∈ s, page.Narrow c) (hl : s.length ≤ length) :
    ∃ b, encodeText codec length s = .ok b ∧ b.length = length ∧
      page.decode b = s ++ List.replicate (length - s.length) ' ' := by
  have ⟨raw, hr, hlen, hd⟩ := CodePage.encode?_of_narrow hn
  have ⟨byte, hb, hbd⟩ := CodePage.narrow_of_mem_numeric (CodePage.ne_utf16_of_chars? hs) CodePage.blank_mem_numeric
  have hblank : page.encode? [' '] = some [byte] := by
    simp [CodePage.encode?, hb]
  have hfill (k : Nat) : page.decode (List.replicate k [byte]).flatten = List.replicate k ' ' := by
    induction k
    case zero => cases page <;> rfl
    case succ k hi => rw [List.replicate_succ, List.flatten_cons, List.singleton_append, hbd, hi, List.replicate_succ]
  refine ⟨raw ++ (List.replicate (length - raw.length) [byte]).flatten, ?_, ?_, ?_⟩
  · rw [encodeText, (Codec.encode_eq_ok_iff hc hp).mpr hr, ok_bind, if_neg (by omega)]
    rw [(Codec.encode_eq_ok_iff hc hp).mpr hblank]
    rfl
  · simp
    omega
  · rw [CodePage.decode_append hs, hd, hfill, hlen]

theorem narrow_of_encodeText (h : encodeText codec length s = .ok b) :
    (∀ c ∈ s, page.Narrow c) ∧ s.length ≤ length := by
  have ⟨raw, hr, h⟩ := bind_eq_ok_iff.mp h
  have ⟨hl, _⟩ := check_eq_ok_iff.mp h
  have hn := CodePage.narrow_of_encode? hs <| (Codec.encode_eq_ok_iff hc hp).mp hr
  have ⟨raw', hr', hlen, _⟩ := CodePage.encode?_of_narrow hn
  cases hr'.symm.trans ((Codec.encode_eq_ok_iff hc hp).mp hr)
  exact ⟨hn, by omega⟩

-- What has been stored is read back with blanks after it.
theorem decode_of_encodeText (h : encodeText codec length s = .ok b) :
    page.decode b = s ++ List.replicate (length - s.length) ' ' := by
  have ⟨hn, hl⟩ := narrow_of_encodeText hc hp hs h
  have ⟨b', hb, _, hd⟩ := encodeText_of_narrow hc hp hs hn hl
  cases hb.symm.trans h
  exact hd

-- Text with other characters is refused, before it is found out how long it is.
theorem encodeText_of_foreign (h : ¬∀ c ∈ s, c ∈ chars) :
    encodeText codec length s = .error (.notInCodePage s codec.page) := by
  have hn : page.encode? s = none := by
    refine Option.eq_none_iff_forall_ne_some.mpr fun b hb => h fun c hm => ?_
    exact CodePage.mem_chars_of_narrow hs (CodePage.narrow_of_encode? hs hb c hm)
  rw [encodeText, Codec.encode_of_none hc hp hn]
  rfl

theorem encodeText_of_long (h : ∀ c ∈ s, c ∈ chars) (hl : length < s.length) :
    encodeText codec length s = .error (.tooLong s s.length length) := by
  obtain ⟨b, hb, hlen, -⟩ := CodePage.encode?_of_narrow fun c hm => (CodePage.narrow_iff hs).mpr (h c hm)
  rw [encodeText, (Codec.encode_eq_ok_iff hc hp).mpr hb, ok_bind, hlen, if_pos hl]
  rfl

theorem encodeText_eq_ok_iff : (∃ b, encodeText codec length s = .ok b) ↔ (∀ c ∈ s, c ∈ chars) ∧ s.length ≤ length := by
  constructor
  case mp =>
    rintro ⟨b, hb⟩
    obtain ⟨hn, hl⟩ := narrow_of_encodeText hc hp hs hb
    exact ⟨fun c hm => CodePage.mem_chars_of_narrow hs (hn c hm), hl⟩
  case mpr =>
    rintro ⟨h, hl⟩
    obtain ⟨b, hb, -⟩ := encodeText_of_narrow hc hp hs (fun c hm => (CodePage.narrow_iff hs).mpr (h c hm)) hl
    exact ⟨b, hb⟩

-- All bytes of a field are those of the text that is read from them, if nothing of it is dropped.
theorem encodeText_decode (ha : page ≠ .ascii) (hl : b.length = length) :
    encodeText codec length (page.decode b) = .ok b := by
  have he := CodePage.encode?_decode hs ha b
  have hm : ∀ c ∈ [' '], c ∈ CodePage.numeric := by simpa using CodePage.blank_mem_numeric
  obtain ⟨blank, hb, -⟩ := CodePage.encode?_of_narrow fun c hc =>
    CodePage.narrow_of_mem_numeric (CodePage.ne_utf16_of_chars? hs) (hm c hc)
  rw [encodeText, (Codec.encode_eq_ok_iff hc hp).mpr he, ok_bind, if_neg (by omega),
    (Codec.encode_eq_ok_iff hc hp).mpr hb, hl, Nat.sub_self]
  simp [pure, Except.pure, bind, Except.bind]

-- Text is stored if and only if the code page has its characters and the field has room for them. What is stored fills
-- the field and is read as the text, without the padding at its end or with blanks up to the length of the field. In a
-- page with a character for each byte, the bytes of a field and the texts that are read from them go with one another
-- if no padding is dropped.
theorem text_round_trip (length : Nat) (edited : Bool) :
    (∀ s, (∃ b, encode (text length edited) codec (.text s) = .ok b) ↔ (∀ c ∈ s, c ∈ chars) ∧ s.length ≤ length) ∧
    (∀ s, ¬(∀ c ∈ s, c ∈ chars) → encode (text length edited) codec (.text s) = .error (.notInCodePage s codec.page)) ∧
    (∀ s, (∀ c ∈ s, c ∈ chars) → length < s.length →
      encode (text length edited) codec (.text s) = .error (.tooLong s s.length length)) ∧
    (∀ s b, encode (text length edited) codec (.text s) = .ok b → b.length = length ∧
      decode (text length edited) codec b = .ok (.text (if codec.trim then Text.dropRight isPadding s
        else s ++ List.replicate (length - s.length) ' '))) ∧
    (codec.trim = false → page ≠ .ascii → ∀ b : Bytes, b.length = length →
      (decode (text length edited) codec b >>= encode (text length edited) codec) = .ok b) := by
  have he (s : Text) : encode (text length edited) codec (.text s) = encodeText codec length s := rfl
  have hd (b : Bytes) : decode (text length edited) codec b =
      .ok (.text (if codec.trim then Text.dropRight isPadding (page.decode b) else page.decode b)) := by
    rw [decode, decodeText_eq hc hp]
    rfl
  refine ⟨fun s => ?stored, fun s => ?foreign, fun s => ?long, fun s b h => ?read, fun ht ha b hl => ?whole⟩
  case stored => exact encodeText_eq_ok_iff hc hp hs
  case foreign => exact encodeText_of_foreign hc hp hs
  case long => exact encodeText_of_long hc hp hs
  case read =>
    obtain ⟨hn, hl⟩ := narrow_of_encodeText hc hp hs h
    obtain ⟨b', hb, hlen, hdec⟩ := encodeText_of_narrow hc hp hs hn hl
    cases hb.symm.trans h
    rw [hd, hdec, dropRight_fill]
    exact ⟨hlen, rfl⟩
  case whole =>
    rw [hd, ht, ok_bind, he]
    exact encodeText_decode hc hp hs ha hl

omit hc hp hs

-- A blank at the end of a text is dropped unless all padding is kept, and then the low value before it is kept too.
theorem word_round_trip :
    encode (text 4 false) {} (.text "AB ".toList) = .ok [0xc1, 0xc2, 0x40, 0x40] ∧
    decode (text 4 false) {} [0xc1, 0xc2, 0x40, 0x40] = .ok (.text "AB".toList) ∧
    (decode (text 3 false) { trim := false } [0xc1, 0x00, 0x40] >>= encode (text 3 false) { trim := false }) =
      .ok [0xc1, 0x00, 0x40] := by
  have he : encode (text 4 false) {} (.text "AB ".toList) = .ok [0xc1, 0xc2, 0x40, 0x40] :=
    toOption_eq_some_iff.mp (by decide +kernel)
  obtain ⟨-, -, -, hread, -⟩ := @text_round_trip {} .cp037 _ ⟨rfl, rfl⟩ (by cbv) rfl 4 false
  obtain ⟨-, -, -, -, hwhole⟩ := @text_round_trip { trim := false } .cp037 _ ⟨rfl, rfl⟩ (by cbv) rfl 3 false
  exact ⟨he, (hread _ _ he).right, hwhole rfl (by decide) _ rfl⟩

end FieldType
end Copybook
