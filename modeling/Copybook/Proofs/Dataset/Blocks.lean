import Copybook.Proofs.Dataset.Accounting

/-!
Blocks one after another, whatever is in them. Each of them is read as if it stood alone, so a block in which the
reading stops early takes no record from its neighbours, and no record lies in two blocks.
-/

namespace Copybook

namespace Framing

variable {blocks : List Bytes} {block : Bytes}

-- The dataset of these blocks, each with its descriptor word.
def writeBlocks : List Bytes → Except FramingFault Bytes
  | [] => .ok []
  | block :: blocks => do
    let word ← blockWord block
    return word ++ block ++ (← writeBlocks blocks)

-- A block that a descriptor word can count.
def IsCountable (block : Bytes) : Prop :=
  block.length + 4 < 2 ^ 32

instance : Decidable (IsCountable block) :=
  inferInstanceAs (Decidable (_ < _))

theorem writeBlocks_cons {data : Bytes} (h : IsCountable block) (hb : writeBlocks blocks = .ok data) :
    writeBlocks (block :: blocks) = .ok (Bytes.ofNat 4 (block.length + 4) ++ block ++ data) := by
  rw [writeBlocks, blockWord_eq h, hb]
  rfl

-- Induction on the blocks, the reading of each of them starting where the one before it ends.
theorem readBlocks_written (h : ∀ block ∈ blocks, IsCountable block) :
    ∃ data, writeBlocks blocks = .ok data ∧ ∀ offset, readBlocks offset data = blocks.flatMap (readRecords 0) := by
  induction blocks
  case nil => exact ⟨[], rfl, fun offset => readBlocks_short offset (by decide)⟩
  case cons block blocks hi =>
    obtain ⟨hb, h⟩ := List.forall_mem_cons.mp h
    obtain ⟨data, hd, hr⟩ := hi h
    refine ⟨_, writeBlocks_cons hb hd, fun offset => ?_⟩
    rw [readBlocks_block offset hb, hr, List.flatMap_cons]

end Framing

namespace Dataset

open Framing Reading

variable {blocks : List Bytes} {block : Bytes} {length : Option Int}

theorem read_records (length : Option Int) (data : Bytes) :
    read Framing.records.name length data = .ok (readRecords 0 data) := by
  rw [read, ofName?_name]
  rfl

theorem read_writeBlocks (length : Option Int) (h : ∀ block ∈ blocks, IsCountable block) :
    ∃ data, writeBlocks blocks = .ok data ∧
      read Framing.blocks.name length data = .ok (blocks.map (readRecords 0)).flatten := by
  obtain ⟨data, hd, hr⟩ := readBlocks_written h
  refine ⟨data, hd, ?_⟩
  rw [read, ofName?_name, ←List.flatMap_def, ←hr 0]
  rfl

-- Blocks that come one after another are read as each of them stands alone, so another block in the place of one of
-- them changes only what is read there, and all records that come up for a block are parts of it.
theorem blocks_read_apart (length : Option Int) (h : ∀ block ∈ blocks, IsCountable block) :
    ∃ (data : Bytes) (readings : List (List Reading)), writeBlocks blocks = .ok data ∧
      read Framing.blocks.name length data = .ok readings.flatten ∧
      List.Forall₂ (fun block rs => read Framing.records.name length block = .ok rs) blocks readings ∧
      (∀ i block, IsCountable block → ∃ data' rs, writeBlocks (blocks.set i block) = .ok data' ∧
        read Framing.records.name length block = .ok rs ∧
        read Framing.blocks.name length data' = .ok (readings.set i rs).flatten) ∧
      List.Forall₂ (fun block rs => ∃ bodies rest, Parted recordCount block bodies rest ∧
        frames rs = bodies.map Framing.records.frameOf) blocks readings := by
  obtain ⟨data, hd, hr⟩ := read_writeBlocks length h
  refine ⟨data, blocks.map (readRecords 0), hd, hr, ?_, fun i block hb => ?_, ?_⟩
  case refine_1 => exact List.forall₂_map_right_iff.mpr (List.forall₂_same.mpr fun block _ => read_records length block)
  case refine_2 =>
    have h' : ∀ b ∈ blocks.set i block, IsCountable b := fun b hm =>
      (List.mem_or_eq_of_mem_set hm).elim (h b) fun he => he ▸ hb
    obtain ⟨data', hd', hr'⟩ := read_writeBlocks length h'
    refine ⟨data', _, hd', read_records length block, ?_⟩
    rw [hr', List.map_set]
  case refine_3 =>
    refine List.forall₂_map_right_iff.mpr (List.forall₂_same.mpr fun block _ => ?_)
    obtain ⟨bodies, rest, hp, hf, -⟩ := readRecords_parted 0 block
    exact ⟨bodies, rest, hp, hf⟩

-- The word in the first block counts nine bytes where there are five, and an empty block comes in its place.
theorem broken_block_read_apart :
    (∀ block ∈ [[0, 9, 0, 0, 0xc1], [0, 5, 0, 0, 0xc2]], IsCountable block) ∧
      ∃ (data : Bytes) (readings : List (List Reading)),
        writeBlocks [[0, 9, 0, 0, 0xc1], [0, 5, 0, 0, 0xc2]] = .ok data ∧
        read Framing.blocks.name none data = .ok readings.flatten ∧ frames readings.flatten = [⟨5, [0xc2]⟩] ∧
        ∃ (data' : Bytes) (rs : List Reading), writeBlocks [[], [0, 5, 0, 0, 0xc2]] = .ok data' ∧
          read Framing.blocks.name none data' = .ok (readings.set 0 rs).flatten := by
  have h : ∀ block ∈ [[0, 9, 0, 0, 0xc1], [0, 5, 0, 0, 0xc2]], IsCountable block := by decide
  obtain ⟨data, readings, hd, hr, hs, hc, -⟩ := blocks_read_apart none h
  obtain ⟨data', rs, hd', -, hr'⟩ := hc 0 [] (by decide)
  refine ⟨h, data, readings, hd, hr, ?_, data', rs, hd', hr'⟩
  have hbad : read Framing.records.name none [0, 9, 0, 0, 0xc1] = .ok [.notice (.badDescriptor .record 0 9)] := by cbv
  have hgood : read Framing.records.name none [0, 5, 0, 0, 0xc2] = .ok [.frame ⟨5, [0xc2]⟩] := by cbv
  obtain _ | ⟨h₁, _ | ⟨h₂, _ | _⟩⟩ := hs
  rw [←Except.ok.inj (hbad.symm.trans h₁), ←Except.ok.inj (hgood.symm.trans h₂)]
  rfl

end Dataset
end Copybook
