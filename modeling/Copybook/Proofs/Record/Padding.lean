import Copybook.Dataset.Records
import Copybook.Proofs.Bytes
import Copybook.Proofs.Dataset.Framing
import Copybook.Proofs.Field.Canonical
import Copybook.Proofs.Layout.Containment
import Copybook.Proofs.Manifest.Extraction

/-!
Records of any length under a layout. What a shorter record lacks are low values, which are zero to a field of numbers
and no text to one of text; so each field is as the record has it, or empty, but for the one that is cut off.
-/

namespace Copybook

namespace Bytes

variable {b b' : Bytes} {length start stop : Nat}

theorem getElem?_fit (length : Nat) (b : Bytes) (i : Nat) :
    (fit length b)[i]? = if i < length then some (b[i]?.getD 0) else none := by
  rw [fit, List.getElem?_append, List.length_take, List.getElem?_take, List.getElem?_replicate]
  by_cases hl : i < length
  case neg => simp [hl, show ¬(i - min length b.length < length - b.length) by omega]
  case pos =>
    by_cases hb : i < b.length
    case pos => simp [hl, hb]
    case neg => simp [hl, hb, show i - min length b.length < length - b.length by omega]

-- What comes after the first bytes does not matter.
theorem fit_congr (h : b'.take length = b.take length) : fit length b' = fit length b := by
  have hl : min length b'.length = min length b.length := by simpa using congrArg List.length h
  rw [fit, fit, h]
  congr 2
  omega

theorem slice_fit_of_le (h : stop ≤ b.length) (hl : stop ≤ length) :
    slice (fit length b) start stop = slice b start stop := by
  refine List.ext_getElem? fun i => ?_
  rw [getElem?_slice, getElem?_slice, getElem?_fit]
  by_cases hi : i < stop - start
  case pos => simp [hi, show start + i < length by omega, show start + i < b.length by omega]
  case neg => rw [if_neg hi, if_neg hi]

theorem slice_fit_past (h : b.length ≤ start) (hl : stop ≤ length) :
    slice (fit length b) start stop = List.replicate (stop - start) 0 := by
  refine List.ext_getElem? fun i => ?_
  rw [getElem?_slice, getElem?_fit, List.getElem?_replicate]
  by_cases hi : i < stop - start
  case pos => simp [hi, show start + i < length by omega, show b.length ≤ start + i by omega]
  case neg => rw [if_neg hi, if_neg hi]

theorem toNat_low (n : Nat) : toNat (List.replicate n 0) = 0 := by
  induction n
  case zero => rfl
  case succ n hi => rw [List.replicate_succ', toNat_concat, hi]; rfl

theorem toInt_low (n : Nat) : toInt (List.replicate n 0) = 0 := by
  have : 0 < 256 ^ n := Nat.pow_pos (by decide)
  simp [toInt, toNat_low, this]

end Bytes

namespace CodePage

-- The low value is one character in all code pages.
theorem decode_low {page : CodePage} {chars : List Char} (hs : page.chars? = some chars) (n : Nat) :
    page.decode (List.replicate n 0) = List.replicate n (Char.ofNat 0) := by
  have hc : chars.getD 0 replacementChar = Char.ofNat 0 := by cases page <;> cases hs <;> decide +kernel
  rw [decode, hs, ←hc]
  exact List.map_replicate

end CodePage

namespace Zoned

-- The character is no digit, and half of the byte is one.
theorem mark_low (atEnd : Bool) : mark atEnd (Char.ofNat 0) 0 = .ok (.digit 0) := by
  cases atEnd <;> cbv

theorem readFrom_low (last position n : Nat) : readFrom last position false 0
    ((List.replicate n (Char.ofNat 0)).zip (List.replicate n 0)) = .ok (false, 0) := by
  induction n generalizing position
  case zero => rfl
  case succ n hi =>
    rw [List.replicate_succ, List.replicate_succ, List.zip_cons_cons, readFrom, mark_low]
    exact hi _

end Zoned

namespace Packed

theorem halves_low (n : Nat) : ∀ half ∈ (halves (List.replicate n 0)).map Prod.snd, half = 0 := by
  induction n
  case zero => simp [halves]
  case succ n hi =>
    cases n
    case zero => simp [halves]
    case succ n =>
      rw [List.replicate_succ, halves_cons _ (by simp)]
      exact List.forall_mem_cons.mpr ⟨rfl, List.forall_mem_cons.mpr ⟨rfl, hi⟩⟩

theorem decode_low (n : Nat) : decode (List.replicate n 0) = .ok 0 := by
  have hh := List.eq_replicate_of_mem (halves_low n)
  have hz (k : Nat) : (List.replicate k 0).foldl (fun n d => n * 10 + d) 0 = 0 := by
    induction k
    case zero => rfl
    case succ k hi => rwa [List.replicate_succ, List.foldl_cons]
  rw [decode, readFrom_eq 0 fun d hd => by rw [halves_low n d hd]; decide, hh, hz]
  cases n <;> simp [isNegative, List.getLast?_replicate, Except.map]

end Packed

namespace FieldType

variable {codec : Codec} {page : CodePage} {chars : List Char}

-- What a field of low values holds: no text, or zero, with its decimal places.
def vacant : FieldType → Value
  | text .. => .text []
  | number _ shape => if shape.fracDigits = 0 then .int 0 else .decimal (.finite false 0 (-shape.fracDigits))

variable (hc : codec.Plain) (hp : CodePage.ofName? codec.page = some page) (hs : page.chars? = some chars)

include hc hp hs

theorem decodeStored_low (shape : NumberShape) (n : Nat) (storage : Storage) :
    decodeStored codec shape (List.replicate n 0) storage = .ok 0 := by
  cases storage
  case zoned =>
    rw [decodeStored, Zoned.decode, Codec.decode_eq hc hp, ok_bind, CodePage.decode_low hs, Zoned.readFrom_low]
    rfl
  case packed => exact Packed.decode_low n
  case binary => simp [decodeStored, decodeBinary, Bytes.toNat_low, Bytes.toInt_low]

theorem decode_low (ht : codec.trim) (type : FieldType) (n : Nat) :
    type.decode codec (List.replicate n 0) = .ok type.vacant := by
  cases type
  case text =>
    have hn : Text.dropRight isPadding (List.replicate n (Char.ofNat 0)) = [] :=
      Text.dropRight_eq_nil_iff.mpr fun _ h => List.eq_of_mem_replicate h ▸ by decide
    rw [decode, decodeText_eq hc hp, CodePage.decode_low hs, ht, if_pos rfl, hn]
    rfl
  case number storage shape =>
    have hk : Text.digitCount (0 : Int).natAbs ≤ shape.precision.digits :=
      NumberShape.digitCount_le_of_lt (Nat.pow_pos (by decide))
    rw [decode, decodeStored_low hc hp hs, ok_bind, NumberShape.value_eq hk, if_neg (by simp)]
    rfl

end FieldType

namespace Layout

open Framing Reading

-- The fields of a record, with all their occurrences: where each lies, and how far from its first one.
def Has (layout : Layout) (s : Spot) : Prop :=
  layout.root.Occurs (.field s.item s.type) s.shift

-- What a record is under a layout: bytes of its length, whatever comes after them, in which each field has the value of
-- its bytes in the record, with the fault if they are none, or is empty if the record ends before it starts.
structure Takes (layout : Layout) (body buffer : Bytes) : Prop where
  length : buffer.length = layout.length
  check : layout.check buffer = .ok ()
  inside : ∀ s, layout.Has s → s.stop ≤ body.length →
    s.read layout.codec buffer = (s.type.decode layout.codec (Bytes.slice body s.start s.stop)).mapError .field
  beyond : ∀ s, layout.Has s → body.length ≤ s.start → s.read layout.codec buffer = .ok s.type.vacant
  cut : ∀ body', body'.take layout.length = body.take layout.length → Bytes.fit layout.length body' = buffer

variable {layout : Layout} {page : CodePage} {chars : List Char}

theorem IsSnug.stop_le (h : layout.IsSnug) {s : Spot} (hs : layout.Has s) : s.stop ≤ layout.length :=
  h.occurs_end_le hs

-- A field of a record that is long enough is read from its bytes.
theorem read_fit (h : layout.IsSnug) {s : Spot} (hs : layout.Has s) (body : Bytes) :
    s.read layout.codec (Bytes.fit layout.length body) =
      s.decode layout.codec (Bytes.slice (Bytes.fit layout.length body) s.start s.stop) := by
  have hl : ¬(Bytes.fit layout.length body).length < s.stop := by
    rw [Bytes.length_fit]
    exact Nat.not_lt.mpr (h.stop_le hs)
  rw [Spot.read, Spot.bytes, if_neg hl, ok_bind]

theorem takes_fit (h : layout.IsSnug) (hc : layout.codec.Plain) (hp : CodePage.ofName? layout.codec.page = some page)
    (hs : page.chars? = some chars) (ht : layout.codec.trim) (body : Bytes) :
    layout.Takes body (Bytes.fit layout.length body) where
  length := Bytes.length_fit _ _
  check := by rw [check, Bytes.length_fit, if_neg (Nat.lt_irrefl _)]
  inside s hf hi := by
    rw [read_fit h hf, Bytes.slice_fit_of_le hi (h.stop_le hf)]
    rfl
  beyond s hf hb := by
    rw [read_fit h hf, Bytes.slice_fit_past hb (h.stop_le hf), Spot.decode, FieldType.decode_low hc hp hs ht]
    rfl
  cut _ h := Bytes.fit_congr h

-- The records of a dataset with descriptor words, up to a limit if there is one, whatever their length is.
theorem records_taken (h : layout.IsSnug) (hc : layout.codec.Plain)
    (hp : CodePage.ofName? layout.codec.page = some page) (hs : page.chars? = some chars) (ht : layout.codec.trim)
    {framing : Framing} (hf : framing ≠ .fixed) (limit : Option Int) (data : Bytes) :
    ∃ rs fitted, framing.read none data = .ok rs ∧ layout.readDataset framing.name limit data = .ok fitted ∧
      List.Forall₂ (fun f g => g.length = f.length ∧ layout.Takes f.body g.body)
        (limit.elim (frames rs) fun n => (frames rs).take n.toNat) (frames fitted) := by
  have hr (length : Option Int) : ∃ rs, framing.read none data = .ok rs ∧ framing.read length data = .ok rs := by
    cases framing
    case fixed => contradiction
    all_goals exact ⟨_, rfl, rfl⟩
  obtain ⟨rs, hn, hr⟩ := hr (some layout.length)
  have taken (fs : List Frame) : List.Forall₂ (fun f g => g.length = f.length ∧ layout.Takes f.body g.body) fs
      (fs.map (Frame.fit layout.length)) :=
    List.forall₂_map_right_iff.mpr <| List.forall₂_same.mpr fun f _ => ⟨rfl, takes_fit h hc hp hs ht f.body⟩
  have hd : layout.readDataset framing.name limit data =
      .ok (limit.elim (rs.map (fit layout.length)) fun n => upTo n.toNat (rs.map (fit layout.length))) := by
    rw [readDataset, Dataset.read, ofName?_name]
    simp only [hr, ok_bind]
    cases limit <;> rfl
  refine ⟨rs, _, hn, hd, ?_⟩
  cases limit
  case none => exact frames_fit _ rs ▸ taken _
  case some n =>
    simp only [Option.elim_some, frames_upTo, frames_fit, ←List.map_take]
    exact taken _

-- The last field of the sample.
def sampleEnd : Spot :=
  ⟨⟨"C".toList, 4, none, none, none⟩, .text 1 false, 0, []⟩

theorem sample_has_end : sample.Has sampleEnd := by
  have hr : sample.root.Occurs _ 0 := Node.Occurs.member .root (List.mem_singleton_self _)
  exact hr.member (by simp [sampleEnd])

-- A record of three bytes, in which the second occurrence is cut off and the last field is missing.
theorem short_record_taken :
    sample.IsSnug ∧ sample.codec.Plain ∧ CodePage.ofName? sample.codec.page = some .cp037 ∧
      CodePage.cp037.chars? = some CodePage.cp037Chars ∧ sample.codec.trim ∧ Framing.records ≠ .fixed ∧
      ∃ rs fitted, Framing.records.read none [0, 7, 0, 0, 0xf1, 0xf2, 0xf3] = .ok rs ∧
        sample.readDataset Framing.records.name none [0, 7, 0, 0, 0xf1, 0xf2, 0xf3] = .ok fitted ∧
        List.Forall₂ (fun f g => g.length = f.length ∧ sample.Takes f.body g.body) (frames rs) (frames fitted) ∧
        ∃ g, frames fitted = [g] ∧ sampleEnd.read sample.codec g.body = .ok (.text []) := by
  have hc : sample.codec.Plain := ⟨rfl, rfl⟩
  have hp : CodePage.ofName? sample.codec.page = some .cp037 := by
    unfold sample
    cbv
  have hf : Framing.records ≠ .fixed := by decide
  obtain ⟨rs, fitted, hr, hd, ht⟩ := records_taken sample_isSnug hc hp rfl rfl hf none [0, 7, 0, 0, 0xf1, 0xf2, 0xf3]
  refine ⟨sample_isSnug, hc, hp, rfl, rfl, hf, rs, fitted, hr, hd, ht, ?_⟩
  have hrs : Framing.records.read none [0, 7, 0, 0, 0xf1, 0xf2, 0xf3] = .ok [.frame ⟨7, [0xf1, 0xf2, 0xf3]⟩] := by cbv
  cases hr.symm.trans hrs
  obtain ⟨g, gs, ⟨-, hg⟩, hn, hf⟩ := List.forall₂_cons_left_iff.mp ht
  cases List.forall₂_nil_left_iff.mp hn
  exact ⟨g, hf, hg.beyond sampleEnd sample_has_end (by decide)⟩

end Layout
end Copybook
