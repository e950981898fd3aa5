import Copybook.Proofs.Dataset.Framing
import Copybook.Proofs.Notice

/-!
What becomes of the bytes of a dataset. Each of them belongs to a record, to the descriptor word of a record or of a
block, or to a rest that is no record: at the end of the dataset, or of a block in it. A rest of records of one length
is always noticed, other rests only from the size of a descriptor word on.
-/

namespace Copybook

namespace Reading

variable (rs rs' : List Reading)

-- The notices that come up.
def notices : List Notice :=
  rs.filterMap notice?

-- The bytes that the lengths of the records come to.
def size : Nat :=
  ((frames rs).map Frame.length).sum

@[simp]
theorem notices_frame_cons (f : Frame) : notices (.frame f :: rs) = notices rs :=
  rfl

@[simp]
theorem notices_notice_cons (n : Notice) : notices (.notice n :: rs) = n :: notices rs :=
  rfl

@[simp]
theorem notices_append : notices (rs ++ rs') = notices rs ++ notices rs' :=
  List.filterMap_append

section Traverse

open Noting

variable {α ε : Type} {f : Frame → Except ε α} {ns ns' : List Notice}

-- Something is done with every record, and all notices are made.
theorem traverse_yields {rs : List Reading} {as : List α} (h : (traverse f rs).Yields ns as ns') :
    List.Forall₂ (fun frame a => f frame = .ok a) (frames rs) as ∧ ns' = ns ++ notices rs := by
  induction rs generalizing ns as
  case nil =>
    obtain ⟨rfl, rfl⟩ := h.pure
    exact ⟨.nil, (List.append_nil _).symm⟩
  case cons r rs hi =>
    cases r <;> rw [traverse] at h
    case frame frame =>
      have ⟨a, m, ha, hr⟩ := h.bind
      have ⟨as', m', has, hp⟩ := hr.bind
      obtain ⟨hf, rfl⟩ := ha.lift
      obtain ⟨rfl, rfl⟩ := hp.pure
      have ⟨hfs, hn⟩ := hi has
      exact ⟨.cons hf hfs, hn⟩
    case notice n =>
      have ⟨_, m, hn, hr⟩ := h.bind
      obtain rfl := hn.note
      have ⟨hfs, hn⟩ := hi hr
      refine ⟨hfs, hn.trans ?_⟩
      rw [notices_notice_cons, List.append_assoc, List.singleton_append]

end Traverse
end Reading

namespace Framing

open Reading

-- The length in the descriptor word of a record. That of a block is the whole word.
def recordCount (word : Bytes) : Nat :=
  Bytes.toNat (word.take 2)

variable {count : Bytes → Nat} {rest rest' word body data : Bytes} {parts parts' : List Bytes}

-- The bytes are parts, each with a word in front that counts it and itself, and a rest.
inductive Counted (count : Bytes → Nat) (rest : Bytes) : List Bytes → Bytes → Prop
  | nil : Counted count rest [] rest
  | cons {word body data : Bytes} {parts : List Bytes} : word.length = 4 → count word = body.length + 4 →
    Counted count rest parts data → Counted count rest (body :: parts) (word ++ body ++ data)

-- The bytes begin with no part: they are less than a word, or what they begin with does not count what follows it.
def Stuck (count : Bytes → Nat) (b : Bytes) : Prop :=
  b.length < 4 ∨ count (b.take 4) < 4 ∨ b.length < count (b.take 4)

theorem not_stuck_part (hw : word.length = 4) (hc : count word = body.length + 4) (rest : Bytes) :
    ¬Stuck count (word ++ body ++ rest) := by
  have ht : (word ++ body ++ rest).take 4 = word := by rw [List.append_assoc, List.take_left' hw]
  simp only [Stuck, ht, List.length_append]
  omega

-- What is so of bytes that begin with no part, and of a part in front of what it is so of, is so of all bytes.
@[elab_as_elim]
theorem counted_induct (count : Bytes → Nat) {p : Bytes → Prop} (short : ∀ b : Bytes, b.length < 4 → p b)
    (bad : ∀ word rest : Bytes, word.length = 4 → count word < 4 ∨ rest.length + 4 < count word → p (word ++ rest))
    (part : ∀ word body rest : Bytes, word.length = 4 → count word = body.length + 4 → p rest →
      p (word ++ body ++ rest)) (b : Bytes) : p b := by
  by_cases hs : b.length < 4
  case pos => exact short b hs
  case neg =>
    have hw : (b.take 4).length = 4 := by
      rw [List.length_take]
      omega
    have hb : b = b.take 4 ++ b.drop 4 := (List.take_append_drop 4 b).symm
    have hl : b.length = (b.drop 4).length + 4 := by
      rw [List.length_drop]
      omega
    by_cases hc : count (b.take 4) < 4 ∨ (b.drop 4).length + 4 < count (b.take 4)
    case pos => exact hb ▸ bad _ _ hw hc
    case neg =>
      have hp : b = b.take 4 ++ (b.drop 4).take (count (b.take 4) - 4) ++ (b.drop 4).drop (count (b.take 4) - 4) := by
        rw [List.append_assoc, List.take_append_drop, List.take_append_drop]
      have hn : count (b.take 4) = ((b.drop 4).take (count (b.take 4) - 4)).length + 4 := by
        rw [List.length_take]
        omega
      have : ((b.drop 4).drop (count (b.take 4) - 4)).length < b.length := by
        rw [List.length_drop]
        omega
      rw [hp]
      exact part _ _ _ hw hn (counted_induct count short bad part _)
termination_by b.length

namespace Counted

theorem length_eq (h : Counted count rest parts data) : data.length = framedSize parts + rest.length := by
  induction h
  case nil => simp [framedSize]
  case cons hw _ _ hi =>
    simp only [List.length_append, hw, hi, framedSize, List.map_cons, List.sum_cons]
    omega

-- There is one way to come to a rest from where it does not go on.
theorem unique (h : Counted count rest parts data) (hs : Stuck count rest) (h' : Counted count rest' parts' data)
    (hs' : Stuck count rest') : parts = parts' ∧ rest = rest' := by
  induction h generalizing parts'
  case nil =>
    cases h'
    case nil => exact ⟨rfl, rfl⟩
    case cons hw hc _ => exact absurd hs (not_stuck_part hw hc _)
  case cons word body data parts hw hc _ hi =>
    generalize hb : word ++ body ++ data = b at h'
    cases h'
    case nil => exact absurd (hb ▸ hs') (not_stuck_part hw hc _)
    case cons word' body' data' parts' hw' hc' h' =>
      rw [List.append_assoc, List.append_assoc] at hb
      obtain ⟨rfl, ht⟩ := List.append_inj hb (hw.trans hw'.symm)
      obtain ⟨rfl, rfl⟩ := List.append_inj ht (by omega)
      have ⟨hp, hr⟩ := hi h'
      exact ⟨congrArg _ hp, hr⟩

end Counted

section Steps

theorem cut?_short (hs : data.length < 4) : Bytes.cut? 4 data = none :=
  if_neg <| by
    rw [List.length_take]
    omega

theorem cut?_word (hw : word.length = 4) (rest : Bytes) : Bytes.cut? 4 (word ++ rest) = some (word, rest) :=
  Bytes.cut?_eq_some_iff.mpr ⟨hw, rfl⟩

theorem cut?_counted_bad {n : Nat} (hn : n < 4 ∨ rest.length + 4 < n) :
    (if n < 4 then none else Bytes.cut? (n - 4) rest) = none := by
  split
  case isTrue => rfl
  case isFalse =>
    refine if_neg ?_
    rw [List.length_take]
    omega

theorem readRecords_short (offset : Nat) (hs : data.length < 4) : readRecords offset data = [] := by
  rw [readRecords_eq, cut?_short hs]

theorem readBlocks_short (offset : Nat) (hs : data.length < 4) : readBlocks offset data = [] := by
  rw [readBlocks_eq, cut?_short hs]

theorem readRecords_bad (offset : Nat) (hw : word.length = 4)
    (hc : recordCount word < 4 ∨ rest.length + 4 < recordCount word) :
    readRecords offset (word ++ rest) = [.notice (.badDescriptor .record offset (recordCount word))] := by
  unfold recordCount at hc ⊢
  rw [readRecords_eq, cut?_word hw]
  simp only [cut?_counted_bad hc]

theorem readBlocks_bad (offset : Nat) (hw : word.length = 4)
    (hc : Bytes.toNat word < 4 ∨ rest.length + 4 < Bytes.toNat word) :
    readBlocks offset (word ++ rest) = [.notice (.badDescriptor .block offset (Bytes.toNat word))] := by
  rw [readBlocks_eq, cut?_word hw]
  simp only [cut?_counted_bad hc]

theorem readRecords_part (offset : Nat) (hw : word.length = 4) (hc : recordCount word = body.length + 4)
    (rest : Bytes) : readRecords offset (word ++ body ++ rest) =
      .frame ⟨body.length + 4, body⟩ :: readRecords (offset + (body.length + 4)) rest := by
  unfold recordCount at hc
  rw [readRecords_eq, List.append_assoc, cut?_word hw]
  simp only [hc, cut?_counted rfl]

theorem readBlocks_part (offset : Nat) (hw : word.length = 4) (hc : Bytes.toNat word = body.length + 4)
    (rest : Bytes) : readBlocks offset (word ++ body ++ rest) =
      readRecords 0 body ++ readBlocks (offset + (body.length + 4)) rest := by
  rw [readBlocks_eq, List.append_assoc, cut?_word hw]
  simp only [hc, cut?_counted rfl]

end Steps

section Parts

-- The bytes are these parts with their words, up to a rest that begins with no part.
def Parted (count : Bytes → Nat) (data : Bytes) (parts : List Bytes) (rest : Bytes) : Prop :=
  Counted count rest parts data ∧ Stuck count rest

theorem Parted.stuck (h : Stuck count data) : Parted count data [] data :=
  ⟨.nil, h⟩

theorem Parted.cons (hw : word.length = 4) (hc : count word = body.length + 4) (h : Parted count data parts rest) :
    Parted count (word ++ body ++ data) (body :: parts) rest :=
  ⟨.cons hw hc h.left, h.right⟩

theorem stuck_bad (hw : word.length = 4) (hc : count word < 4 ∨ rest.length + 4 < count word) :
    Stuck count (word ++ rest) := by
  have ht : (word ++ rest).take 4 = word := List.take_left' hw
  simp only [Stuck, ht, List.length_append]
  omega

-- The records that are read are the parts. A rest is noticed from the size of a word on.
theorem readRecords_parted (offset : Nat) (data : Bytes) :
    ∃ bodies rest, Parted recordCount data bodies rest ∧
      frames (readRecords offset data) = bodies.map records.frameOf ∧
      (notices (readRecords offset data) = [] ↔ rest.length < 4) := by
  induction data using counted_induct recordCount generalizing offset
  case short b hs =>
    rw [readRecords_short offset hs]
    exact ⟨[], b, .stuck (.inl hs), rfl, iff_of_true rfl hs⟩
  case bad word rest hw hc =>
    rw [readRecords_bad offset hw hc]
    refine ⟨[], word ++ rest, .stuck (stuck_bad hw hc), rfl, iff_of_false (by simp) ?_⟩
    rw [List.length_append]
    omega
  case part word body rest hw hc hi =>
    have ⟨bodies, rest', hp, hf, hn⟩ := hi (offset + (body.length + 4))
    rw [readRecords_part offset hw hc, frames_frame_cons, notices_frame_cons, hf]
    exact ⟨body :: bodies, rest', hp.cons hw hc, rfl, hn⟩

-- Each block is read for itself, and so is what follows the last of them.
theorem readBlocks_parted (offset : Nat) (data : Bytes) :
    ∃ parts rest inners, Parted Bytes.toNat data parts rest ∧
      List.Forall₂ (fun part inner => Parted recordCount part inner.1 inner.2) parts inners ∧
      frames (readBlocks offset data) = (inners.flatMap Prod.fst).map blocks.frameOf ∧
      (notices (readBlocks offset data) = [] ↔ ∀ rest' ∈ inners.map Prod.snd ++ [rest], rest'.length < 4) := by
  induction data using counted_induct Bytes.toNat generalizing offset
  case short b hs =>
    rw [readBlocks_short offset hs]
    exact ⟨[], b, [], .stuck (.inl hs), .nil, rfl, iff_of_true rfl (by simpa)⟩
  case bad word rest hw hc =>
    rw [readBlocks_bad offset hw hc]
    refine ⟨[], word ++ rest, [], .stuck (stuck_bad hw hc), .nil, rfl, iff_of_false (by simp) ?_⟩
    simp only [List.map_nil, List.nil_append, List.mem_singleton, forall_eq, List.length_append]
    omega
  case part word body rest hw hc hi =>
    have ⟨bodies, rest₁, hp₁, hf₁, hn₁⟩ := readRecords_parted 0 body
    have ⟨parts, rest₂, inners, hp₂, hi, hf₂, hn₂⟩ := hi (offset + (body.length + 4))
    rw [readBlocks_part offset hw hc, frames_append, notices_append, hf₁, hf₂]
    refine ⟨body :: parts, rest₂, (bodies, rest₁) :: inners, hp₂.cons hw hc, .cons hp₁ hi, ?_, ?_⟩
    · rw [List.flatMap_cons, List.map_append]
      rfl
    · rw [List.append_eq_nil_iff, hn₁, hn₂, List.map_cons, List.cons_append, List.forall_mem_cons]

theorem readFixed_parted {n : Nat} (hn : 0 < n) (data : Bytes) :
    ∃ (bodies : List Bytes) (rest : Bytes), data = bodies.flatten ++ rest ∧ (∀ body ∈ bodies, body.length = n) ∧
      rest.length < n ∧ frames (readFixed n hn data) = bodies.map fixed.frameOf ∧
      (notices (readFixed n hn data) = [] ↔ rest.length < 1) := by
  rw [readFixed_eq]
  split
  case _ body rest hc =>
    have := Bytes.length_of_cut? hc
    obtain ⟨hl, rfl⟩ := Bytes.cut?_eq_some_iff.mp hc
    obtain ⟨bodies, rest', rfl, hb, hr, hf, hns⟩ := readFixed_parted hn rest
    refine ⟨body :: bodies, rest', ?_, List.forall_mem_cons.mpr ⟨hl, hb⟩, hr, ?_, hns⟩
    · rw [List.flatten_cons, List.append_assoc]
    · rw [frames_frame_cons, hf, ←hl]
      rfl
  case _ hc =>
    have hl : data.length < n := by
      by_contra h
      have ht : (data.take n).length = n := by
        rw [List.length_take]
        omega
      simp [Bytes.cut?, ht] at hc
    refine ⟨[], data, rfl, by simp, hl, ?_, ?_⟩ <;> cases data <;> simp [frames, notices, frame?, notice?]
termination_by data.length

-- The blocks of a dataset fall into records in one way only.
theorem inners_unique {parts : List Bytes} {inners inners' : List (List Bytes × Bytes)}
    (h : List.Forall₂ (fun part inner => Parted recordCount part inner.1 inner.2) parts inners)
    (h' : List.Forall₂ (fun part inner => Parted recordCount part inner.1 inner.2) parts inners') :
    inners = inners' := by
  induction h generalizing inners'
  case nil =>
    cases h'
    rfl
  case cons hp _ hi =>
    cases h'
    case cons hp' h' =>
      have ⟨hb, hr⟩ := hp.left.unique hp.right hp'.left hp'.right
      rw [hi h', Prod.ext hb hr]

-- So do records of one length, up to what they leave.
theorem flatten_unique {n : Nat} {bodies bodies' : List Bytes} (hr : rest.length < n) (hr' : rest'.length < n)
    (hb : ∀ body ∈ bodies, body.length = n) (hb' : ∀ body ∈ bodies', body.length = n)
    (h : bodies.flatten ++ rest = bodies'.flatten ++ rest') : bodies = bodies' ∧ rest = rest' := by
  induction bodies generalizing bodies' <;> cases bodies'
  case nil.nil => exact ⟨rfl, h⟩
  case nil.cons body bodies =>
    have := congrArg List.length h
    have := hb' body (by simp)
    simp only [List.flatten_nil, List.nil_append, List.flatten_cons, List.length_append] at *
    omega
  case cons.nil body bodies _ =>
    have := congrArg List.length h
    have := hb body (by simp)
    simp only [List.flatten_nil, List.nil_append, List.flatten_cons, List.length_append] at *
    omega
  case cons.cons body bodies hi body' bodies' =>
    rw [List.forall_mem_cons] at hb hb'
    rw [List.flatten_cons, List.flatten_cons, List.append_assoc, List.append_assoc] at h
    obtain ⟨rfl, ht⟩ := List.append_inj h (hb.left.trans hb'.left.symm)
    have ⟨hbs, hrs⟩ := hi hb.right hb'.right ht
    exact ⟨congrArg _ hbs, hrs⟩

theorem framedSize_append (bodies bodies' : List Bytes) :
    framedSize (bodies ++ bodies') = framedSize bodies + framedSize bodies' := by
  simp [framedSize]

-- The blocks are made up of their words, of the records in them, and of what the records leave.
theorem framedSize_parts {parts : List Bytes} {inners : List (List Bytes × Bytes)}
    (h : List.Forall₂ (fun part inner => Parted recordCount part inner.1 inner.2) parts inners) :
    framedSize parts = framedSize (inners.flatMap Prod.fst) + 4 * parts.length +
      (inners.map fun inner => inner.2.length).sum := by
  induction h
  case nil => rfl
  case cons part inner parts inners hp _ hi =>
    have := hp.left.length_eq
    simp only [List.flatMap_cons, framedSize_append, List.length_cons, List.map_cons, List.sum_cons]
    simp only [framedSize, List.map_cons, List.sum_cons] at *
    omega

end Parts

-- What a dataset falls into: records, as many blocks as have words of their own, and rests.
structure Division where
  records : List Bytes
  blocks : Nat
  rests : List Bytes

-- How many bytes the rests have.
def Division.left (d : Division) : Nat :=
  (d.rests.map List.length).sum

theorem Division.left_eq_zero_iff {d : Division} : d.left = 0 ↔ ∀ rest ∈ d.rests, rest.length = 0 := by
  simp only [left, List.sum_eq_zero_iff, List.forall_mem_map]

-- How a dataset falls into these under a framing, `length` being the one that it is read with.
inductive Divides : Framing → Option Int → Bytes → Division → Prop
  | fixed {length : Option Int} {n : Nat} {data rest : Bytes} {bodies : List Bytes} : length = some (n : Int) →
    data = bodies.flatten ++ rest → (∀ body ∈ bodies, body.length = n) → rest.length < n →
    Divides .fixed length data ⟨bodies, 0, [rest]⟩
  | records {length : Option Int} {data rest : Bytes} {bodies : List Bytes} : Parted recordCount data bodies rest →
    Divides .records length data ⟨bodies, 0, [rest]⟩
  | blocks {length : Option Int} {data rest : Bytes} {parts : List Bytes} {inners : List (List Bytes × Bytes)} :
    Parted Bytes.toNat data parts rest →
    List.Forall₂ (fun part inner => Parted recordCount part inner.1 inner.2) parts inners →
    Divides .blocks length data ⟨inners.flatMap Prod.fst, parts.length, inners.map Prod.snd ++ [rest]⟩

-- The size from which a rest is noticed.
def leastNoticed : Framing → Nat
  | fixed => 1
  | _ => 4

theorem leastNoticed_pos (framing : Framing) : 0 < framing.leastNoticed := by
  cases framing <;> decide

namespace Divides

variable {framing : Framing} {length : Option Int} {d d' : Division} {rs : List Reading}

-- A dataset that can be read falls into the records that come up and rests, and a notice says that one is not small.
theorem of_read (h : framing.read length data = .ok rs) :
    ∃ d, framing.Divides length data d ∧ frames rs = d.records.map framing.frameOf ∧
      (notices rs = [] ↔ ∀ rest ∈ d.rests, rest.length < framing.leastNoticed) := by
  unfold read at h
  split at h
  case _ => contradiction
  case _ n =>
    split at h <;> cases h
    case isTrue hn =>
      obtain ⟨bodies, rest, hd, hb, hr, hf, hns⟩ := readFixed_parted (show 0 < n.toNat by omega) data
      have hl : some n = some (n.toNat : Int) := congrArg _ (Int.toNat_of_nonneg hn.le).symm
      refine ⟨_, .fixed hl hd hb hr, hf, ?_⟩
      rw [List.forall_mem_singleton]
      exact hns
  case _ =>
    cases h
    obtain ⟨bodies, rest, hp, hf, hns⟩ := readRecords_parted 0 data
    refine ⟨_, .records hp, hf, ?_⟩
    rw [List.forall_mem_singleton]
    exact hns
  case _ =>
    cases h
    obtain ⟨parts, rest, inners, hp, hi, hf, hns⟩ := readBlocks_parted 0 data
    exact ⟨_, .blocks hp hi, hf, hns⟩

-- There is no other way for it to do so.
theorem unique (h : framing.Divides length data d) (h' : framing.Divides length data d') : d = d' := by
  cases h
  case fixed n rest bodies hb hr hl hd =>
    cases h'
    case fixed m rest' bodies' hb' hr' hl' hd' =>
      have hm : m = n := by
        rw [hl, Option.some.injEq] at hl'
        omega
      subst hm
      have ⟨hbs, hrs⟩ := flatten_unique hr hr' hb hb' (hd.symm.trans hd')
      rw [hbs, hrs]
  case records hp =>
    cases h'
    case records hp' =>
      have ⟨hb, hr⟩ := hp.left.unique hp.right hp'.left hp'.right
      rw [hb, hr]
  case blocks hi hp =>
    cases h'
    case blocks hi' hp' =>
      have ⟨hb, hr⟩ := hp.left.unique hp.right hp'.left hp'.right
      subst hb hr
      rw [inners_unique hi hi']

-- All bytes are in the records, in their words, in those of the blocks, or in the rests.
theorem length_eq (h : framing.Divides length data d) :
    ((d.records.map framing.frameOf).map Frame.length).sum + 4 * d.blocks + d.left = data.length := by
  cases h
  case fixed hd => simp [frameOf, Division.left, hd, Function.comp_def]
  case records hp =>
    have := hp.left.length_eq
    simp only [frameOf, framedSize, Division.left, List.map_map, Function.comp_def, List.map_cons, List.map_nil,
      List.sum_cons, List.sum_nil] at this ⊢
    omega
  case blocks hi hp =>
    have := hp.left.length_eq
    have := framedSize_parts hi
    simp only [frameOf, framedSize, Division.left, List.map_append, List.map_map, Function.comp_def, List.map_cons,
      List.map_nil, List.sum_append, List.sum_cons, List.sum_nil] at *
    omega

-- What records of one length leave is less than that.
theorem left_fixed {n : Int} (h : Framing.fixed.Divides (some n) data d) : (d.left : Int) = data.length % n := by
  cases h
  case fixed k rest bodies hb hr hn hd =>
    cases hn
    have hl : (bodies.map List.length).sum = bodies.length * k := by
      rw [List.sum_eq_card_nsmul _ k (by simpa using hb), List.length_map, smul_eq_mul]
    have hm : (bodies.length * k + rest.length) % k = rest.length := Nat.mul_add_mod_of_lt hr
    simp only [Division.left, List.map_cons, List.map_nil, List.sum_cons, List.sum_nil, Nat.add_zero]
    rw [hd, List.length_append, List.length_flatten, hl]
    exact_mod_cast hm.symm

end Divides

end Framing

namespace Dataset

open Framing Reading

-- Every dataset falls into records and rests in one way. The lengths of the records that are read, the words of the
-- blocks and the rests come to all its bytes, and nothing is noticed exactly if each rest is too small to be noticed:
-- then bytes are lost unless there is no rest, as there never is among records of one length.
theorem bytes_accounted (framing : Framing) (length : Option Int)
    (h : framing = .fixed → ∃ n : Int, length = some n ∧ 0 < n) (data : Bytes) :
    ∃ rs, read framing.name length data = .ok rs ∧ ∃! d, framing.Divides length data d ∧
      frames rs = d.records.map framing.frameOf ∧ size rs + 4 * d.blocks + d.left = data.length ∧
      (notices rs = [] ↔ ∀ rest ∈ d.rests, rest.length < framing.leastNoticed) := by
  simp only [read, ofName?_name]
  obtain ⟨rs, hr⟩ : ∃ rs, framing.read length data = .ok rs := by
    cases framing
    case fixed =>
      obtain ⟨n, rfl, hn⟩ := h rfl
      exact ⟨_, dif_pos hn⟩
    case records => exact ⟨_, rfl⟩
    case blocks => exact ⟨_, rfl⟩
  obtain ⟨d, hd, hf, hn⟩ := Divides.of_read hr
  refine ⟨rs, hr, d, ⟨hd, hf, ?_, hn⟩, fun d' hd' => hd'.left.unique hd⟩
  rw [size, hf]
  exact hd.length_eq

-- A block of one record, and a byte that is no word.
theorem block_accounted : (Framing.blocks = .fixed → ∃ n : Int, (none : Option Int) = some n ∧ 0 < n) ∧
    ∃ rs, read Framing.blocks.name none [0, 0, 0, 9, 0, 5, 0, 0, 0xc1, 7] = .ok rs ∧
      ∃! d, Framing.blocks.Divides none [0, 0, 0, 9, 0, 5, 0, 0, 0xc1, 7] d ∧
        frames rs = d.records.map Framing.blocks.frameOf ∧ size rs + 4 * d.blocks + d.left = 10 ∧
        (notices rs = [] ↔ ∀ rest ∈ d.rests, rest.length < 4) :=
  ⟨nofun, bytes_accounted .blocks none nofun [0, 0, 0, 9, 0, 5, 0, 0, 0xc1, 7]⟩

-- A single byte is no record and no word, and nothing says so.
theorem not_every_loss_noticed : ¬∀ data rs, read Framing.records.name none data = .ok rs → notices rs = [] →
    size rs = data.length := by
  intro h
  have hr : read Framing.records.name none [0] = .ok [] := by cbv
  exact absurd (h [0] [] hr rfl) (by decide)

end Dataset
end Copybook
