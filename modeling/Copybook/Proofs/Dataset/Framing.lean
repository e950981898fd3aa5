import Mathlib
import Copybook.Dataset.Framing
import Copybook.Proofs.Except
import Copybook.Proofs.Field.Binary

/-!
Records that are written with a framing are read back, whatever comes after them: what follows a dataset is read as
if it stood alone.
-/

namespace Copybook

namespace Reading

-- The records that come up.
def frames (rs : List Reading) : List Frame :=
  rs.filterMap frame?

@[simp]
theorem frames_frame_cons (f : Frame) (rs : List Reading) : frames (.frame f :: rs) = f :: frames rs :=
  rfl

@[simp]
theorem frames_append (rs rs' : List Reading) : frames (rs ++ rs') = frames rs ++ frames rs' :=
  List.filterMap_append

end Reading

namespace Framing

open Reading

variable {bodies : List Bytes} {body b tail : Bytes} {offset : Nat}

-- A record as it is read back: with descriptor words, its word counts too.
def frameOf (framing : Framing) (body : Bytes) : Frame :=
  match framing with
  | fixed => ⟨body.length, body⟩
  | _ => ⟨body.length + 4, body⟩

-- The bytes of records with their descriptor words.
def framedSize (bodies : List Bytes) : Nat :=
  (bodies.map fun body => body.length + 4).sum

-- The records that a framing has room for, `length` being the one that it is read with. The greatest record has
-- as many bytes as two of them can count, less four for the descriptor word.
def Holds (length : Option Int) (bodies : List Bytes) : Framing → Prop
  | fixed => ∃ n : Nat, length = some (n : Int) ∧ 0 < n ∧ ∀ body ∈ bodies, body.length = n
  | records => ∀ body ∈ bodies, body.length ≤ 65531
  | blocks => (∀ body ∈ bodies, body.length ≤ 65531) ∧ framedSize bodies + 4 < 2 ^ 32

section Words

theorem recordWord_eq (h : body.length ≤ 65531) :
    recordWord body = .ok (Bytes.ofNat 2 (body.length + 4) ++ [0, 0]) := by
  have hl : body.length + 4 < 256 ^ 2 := by omega
  rw [recordWord, Bytes.ofNat?, if_pos hl]

theorem recordWord_tooLong (h : 65531 < body.length) : recordWord body = .error (.tooLong body.length) := by
  have hl : ¬body.length + 4 < 256 ^ 2 := by omega
  rw [recordWord, Bytes.ofNat?, if_neg hl]

theorem blockWord_eq (h : b.length + 4 < 2 ^ 32) : blockWord b = .ok (Bytes.ofNat 4 (b.length + 4)) := by
  have hl : b.length + 4 < 256 ^ 4 := h
  rw [blockWord, Bytes.ofNat?, if_pos hl]

theorem writeRecords_cons (h : body.length ≤ 65531) (hb : writeRecords bodies = .ok b) :
    writeRecords (body :: bodies) = .ok (Bytes.ofNat 2 (body.length + 4) ++ [0, 0] ++ body ++ b) := by
  rw [writeRecords, recordWord_eq h, hb]
  rfl

theorem writeRecords_eq_ok (h : ∀ body ∈ bodies, body.length ≤ 65531) :
    ∃ b, writeRecords bodies = .ok b ∧ b.length = framedSize bodies := by
  induction bodies
  case nil => exact ⟨[], rfl, rfl⟩
  case cons body bodies hi =>
    have ⟨b, hb, hl⟩ := hi fun x hx => h x (List.mem_cons_of_mem _ hx)
    refine ⟨_, writeRecords_cons (h body (by simp)) hb, ?_⟩
    simp only [List.length_append, Bytes.length_ofNat, hl, framedSize, List.map_cons, List.sum_cons,
      List.length_cons, List.length_nil]
    omega

-- The first record that is too long ends the writing.
theorem writeRecords_tooLong (h : ∃ body ∈ bodies, 65531 < body.length) :
    ∃ n, 65531 < n ∧ writeRecords bodies = .error (.tooLong n) := by
  induction bodies
  case nil => simp at h
  case cons body bodies hi =>
    by_cases hl : 65531 < body.length
    case pos =>
      refine ⟨body.length, hl, ?_⟩
      rw [writeRecords, recordWord_tooLong hl]
      rfl
    case neg =>
      have ⟨n, hn, he⟩ := hi <| by simpa [hl] using h
      refine ⟨n, hn, ?_⟩
      rw [writeRecords, recordWord_eq (by omega), he]
      rfl

end Words

section Reading

-- A descriptor word counts itself and the bytes after it.
theorem cut?_counted {n : Nat} (hn : n = b.length + 4) (rest : Bytes) :
    (if n < 4 then none else Bytes.cut? (n - 4) (b ++ rest)) = some (b, rest) := by
  rw [if_neg (by omega), hn, Nat.add_sub_cancel]
  exact Bytes.cut?_append b rest

theorem length_of_counted {n : Nat} {rest : Bytes}
    (h : (if n < 4 then none else Bytes.cut? (n - 4) b) = some (body, rest)) : rest.length ≤ b.length := by
  split at h
  case isTrue => contradiction
  case isFalse =>
    have := Bytes.length_of_cut? h
    omega

-- One step of reading, and the rest from there.
theorem readRecords_eq (offset : Nat) (data : Bytes) :
    readRecords offset data =
      match Bytes.cut? 4 data with
      | none => []
      | some (word, rest) =>
        let length := Bytes.toNat (word.take 2)
        match if length < 4 then none else Bytes.cut? (length - 4) rest with
        | none => [.notice (.badDescriptor .record offset length)]
        | some (body, rest) => .frame ⟨length, body⟩ :: readRecords (offset + length) rest := by
  rw [readRecords]
  split
  case _ h => simp only [h]
  case _ h =>
    simp only [h]
    split <;> simp only [*]

theorem readBlocks_eq (offset : Nat) (data : Bytes) :
    readBlocks offset data =
      match Bytes.cut? 4 data with
      | none => []
      | some (word, rest) =>
        let length := Bytes.toNat word
        match if length < 4 then none else Bytes.cut? (length - 4) rest with
        | none => [.notice (.badDescriptor .block offset length)]
        | some (block, rest) => readRecords 0 block ++ readBlocks (offset + length) rest := by
  rw [readBlocks]
  split
  case _ h => simp only [h]
  case _ h =>
    simp only [h]
    split <;> simp only [*]

theorem readFixed_eq {n : Nat} (hn : 0 < n) (data : Bytes) :
    readFixed n hn data =
      match Bytes.cut? n data with
      | some (body, rest) => .frame ⟨n, body⟩ :: readFixed n hn rest
      | none => if data.isEmpty then [] else [.notice (.trailingBytes data.length)] := by
  rw [readFixed]
  split <;> simp only [*]

theorem readRecords_nil (offset : Nat) : readRecords offset [] = [] := by
  rw [readRecords_eq]
  rfl

-- A record with its descriptor word is read first, and then what comes after it.
theorem readRecords_record (offset : Nat) (h : body.length ≤ 65531) (rest : Bytes) :
    readRecords offset (Bytes.ofNat 2 (body.length + 4) ++ [0, 0] ++ body ++ rest) =
      .frame ⟨body.length + 4, body⟩ :: readRecords (offset + (body.length + 4)) rest := by
  have hw : Bytes.cut? 4 (Bytes.ofNat 2 (body.length + 4) ++ [0, 0] ++ body ++ rest) =
      some (Bytes.ofNat 2 (body.length + 4) ++ [0, 0], body ++ rest) := by
    rw [Bytes.cut?_eq_some_iff, List.append_assoc _ body rest]
    exact ⟨by simp, rfl⟩
  have hn : Bytes.toNat ((Bytes.ofNat 2 (body.length + 4) ++ [0, 0]).take 2) = body.length + 4 := by
    rw [List.take_left' (Bytes.length_ofNat ..)]
    exact Bytes.toNat_ofNat_of_lt (by omega)
  rw [readRecords_eq, hw]
  simp only [hn, cut?_counted rfl]

-- Induction on the records that have been written, the reading starting anew after each of them.
theorem readRecords_written (offset : Nat) (h : ∀ body ∈ bodies, body.length ≤ 65531)
    (hb : writeRecords bodies = .ok b) (rest : Bytes) :
    readRecords offset (b ++ rest) =
      bodies.map (fun body => .frame ⟨body.length + 4, body⟩) ++ readRecords (offset + b.length) rest := by
  induction bodies generalizing b offset
  case nil =>
    cases hb
    rfl
  case cons body bodies hi =>
    have hl := h body (by simp)
    have h := fun x hx => h x (List.mem_cons_of_mem body hx)
    have ⟨b', hb', _⟩ := writeRecords_eq_ok h
    cases (writeRecords_cons hl hb').symm.trans hb
    rw [List.append_assoc _ b' rest, readRecords_record offset hl, hi _ h hb', List.map_cons, List.cons_append]
    congr 3
    simp
    omega

theorem readBlocks_block (offset : Nat) (h : b.length + 4 < 2 ^ 32) (rest : Bytes) :
    readBlocks offset (Bytes.ofNat 4 (b.length + 4) ++ b ++ rest) =
      readRecords 0 b ++ readBlocks (offset + (b.length + 4)) rest := by
  have hw : Bytes.cut? 4 (Bytes.ofNat 4 (b.length + 4) ++ b ++ rest) =
      some (Bytes.ofNat 4 (b.length + 4), b ++ rest) := by
    rw [Bytes.cut?_eq_some_iff, List.append_assoc]
    exact ⟨by simp, rfl⟩
  have hn : Bytes.toNat (Bytes.ofNat 4 (b.length + 4)) = b.length + 4 := Bytes.toNat_ofNat_of_lt h
  rw [readBlocks_eq, hw]
  simp only [hn, cut?_counted rfl]

-- Records of one length are read one after another, whatever is left at the end.
theorem readFixed_flatten {n : Nat} (hn : 0 < n) (h : ∀ body ∈ bodies, body.length = n) (rest : Bytes) :
    readFixed n hn (bodies.flatten ++ rest) =
      bodies.map (fun body => .frame ⟨body.length, body⟩) ++ readFixed n hn rest := by
  induction bodies
  case nil => rfl
  case cons body bodies hi =>
    have hl := h body (by simp)
    have hc : Bytes.cut? n (body ++ (bodies.flatten ++ rest)) = some (body, bodies.flatten ++ rest) :=
      Bytes.cut?_eq_some_iff.mpr ⟨hl, rfl⟩
    rw [List.flatten_cons, List.append_assoc, readFixed_eq, hc]
    simp only [hi fun x hx => h x (List.mem_cons_of_mem body hx), List.map_cons, List.cons_append, hl]

-- Where a dataset starts shows in its notices only.
theorem frames_readRecords (offset offset' : Nat) (data : Bytes) :
    frames (readRecords offset data) = frames (readRecords offset' data) := by
  rw [readRecords_eq, readRecords_eq offset']
  cases hw : Bytes.cut? 4 data
  case none => rfl
  case some cut =>
    simp only
    split
    case _ => rfl
    case _ body rest hc =>
      have := Bytes.length_of_cut? hw
      have := length_of_counted hc
      rw [frames_frame_cons, frames_frame_cons, frames_readRecords _ (offset' + Bytes.toNat (cut.1.take 2)) rest]
termination_by data.length

theorem frames_readBlocks (offset offset' : Nat) (data : Bytes) :
    frames (readBlocks offset data) = frames (readBlocks offset' data) := by
  rw [readBlocks_eq, readBlocks_eq offset']
  cases hw : Bytes.cut? 4 data
  case none => rfl
  case some cut =>
    simp only
    split
    case _ => rfl
    case _ block rest hc =>
      have := Bytes.length_of_cut? hw
      have := length_of_counted hc
      rw [frames_append, frames_append, frames_readBlocks _ (offset' + Bytes.toNat cut.1) rest]
termination_by data.length

end Reading

theorem frames_map_frame (f : Bytes → Frame) (bodies : List Bytes) :
    frames (bodies.map fun body => .frame (f body)) = bodies.map f := by
  induction bodies
  case nil => rfl
  case cons body bodies hi => simp [hi]

-- What is written with a framing is read back and does not change how what follows it is read.
theorem read_write (framing : Framing) {length : Option Int} (h : framing.Holds length bodies) (tail : Bytes) :
    ∃ data rs rs', framing.write bodies = .ok data ∧ framing.read length (data ++ tail) = .ok rs ∧
      framing.read length tail = .ok rs' ∧ frames rs = bodies.map framing.frameOf ++ frames rs' := by
  cases framing <;> simp only [Holds] at h
  case fixed =>
    obtain ⟨n, rfl, hn, hl⟩ := h
    have hn' : (0 : Int) < n := by omega
    refine ⟨_, _, _, rfl, dif_pos hn', dif_pos hn', ?_⟩
    simp only [Int.toNat_natCast, readFixed_flatten hn hl, frames_append, frames_map_frame]
    rfl
  case records =>
    have ⟨b, hb, _⟩ := writeRecords_eq_ok h
    refine ⟨b, _, _, hb, rfl, rfl, ?_⟩
    rw [readRecords_written 0 h hb, frames_append, frames_map_frame, frames_readRecords _ 0]
    rfl
  case blocks =>
    have ⟨h, hs⟩ := h
    have ⟨b, hb, hl⟩ := writeRecords_eq_ok h
    have hs : b.length + 4 < 2 ^ 32 := by omega
    refine ⟨Bytes.ofNat 4 (b.length + 4) ++ b, _, _, ?_, rfl, rfl, ?_⟩
    · rw [write, hb, ok_bind, blockWord_eq hs]
      rfl
    · have hr := readRecords_written 0 h hb []
      rw [List.append_nil, readRecords_nil, List.append_nil] at hr
      rw [readBlocks_block 0 hs, frames_append, hr, frames_map_frame, frames_readBlocks _ 0]
      rfl

end Framing

namespace Dataset

open Framing Reading

-- Records that a framing has room for are read back, and what comes after them is read as it is by itself. Records
-- that are too long for a descriptor word are refused.
theorem written_read_back (framing : Framing) (length : Option Int) (bodies : List Bytes) :
    (framing.Holds length bodies → ∀ tail, ∃ data rs rs', write framing.name bodies = .ok data ∧
        read framing.name length (data ++ tail) = .ok rs ∧ read framing.name length tail = .ok rs' ∧
        frames rs = bodies.map framing.frameOf ++ frames rs') ∧
      (framing ≠ .fixed → (∃ body ∈ bodies, 65531 < body.length) →
        ∃ fault, write framing.name bodies = .error fault ∧ fault.kind = .numberTooWide) := by
  simp only [write, read, ofName?_name]
  refine ⟨fun h tail => read_write framing h tail, fun hf hl => ?_⟩
  have ⟨n, _, he⟩ := writeRecords_tooLong hl
  cases framing
  case fixed => contradiction
  case records => exact ⟨_, he, rfl⟩
  case blocks =>
    refine ⟨.tooLong n, ?_, rfl⟩
    rw [Framing.write, he, error_bind]

-- After the block there is a word that counts fewer bytes than it has itself.
theorem block_read_back :
    Framing.blocks.Holds none [[0xc1], []] ∧
      (∃ data rs rs', write "bdw".toList [[0xc1], []] = .ok data ∧
        read "bdw".toList none (data ++ [0, 0, 0, 3, 7]) = .ok rs ∧ read "bdw".toList none [0, 0, 0, 3, 7] = .ok rs' ∧
        frames rs = [⟨5, [0xc1]⟩, ⟨4, []⟩] ++ frames rs') ∧
      ∃ fault, write "bdw".toList [List.replicate 65532 0] = .error fault ∧ fault.kind = .numberTooWide := by
  have h : Framing.blocks.Holds none [[0xc1], []] := ⟨by simp, by decide⟩
  have hl : ∃ body ∈ [List.replicate 65532 (0 : UInt8)], 65531 < body.length := by
    refine ⟨_, List.mem_singleton_self _, ?_⟩
    rw [List.length_replicate]
    decide
  exact ⟨h, (written_read_back .blocks none [[0xc1], []]).left h [0, 0, 0, 3, 7],
    (written_read_back .blocks none [List.replicate 65532 0]).right nofun hl⟩

end Dataset
end Copybook
