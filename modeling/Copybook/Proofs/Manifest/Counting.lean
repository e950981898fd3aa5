import Copybook.Proofs.Manifest.Fault

/-!
The counts in the report on a dataset whose copybook compiles. All records are counted; those that are looked at and
decoded fall into the ones that can be decoded and the ones of which the report says, by their number, what is wrong.
-/

namespace Copybook

open Framing Noting Reading

namespace Settings

-- At most how many records are looked at: all of them if that is not said, or zero. A zero that is set nevertheless, as
-- the text `0` is, says something else.
def Caps (checks : Settings) (max : Nat) : Prop :=
  (checks.get "max_records" = .null ∧ max = 0) ∨
    (checks.get "max_records").integer = .ok (max : Int) ∧ ((checks.get "max_records").isSet ↔ max ≠ 0)

-- How many records are decoded, five if that is not said.
def Samples (checks : Settings) (size : Nat) : Prop :=
  (Value.get? "decode_sample".toList checks = none ∧ size = 5) ∨
    ∃ v, Value.get? "decode_sample".toList checks = some v ∧ v.integer = .ok (size : Int)

end Settings

namespace Layout

variable {layout : Layout} {index decoded : Nat} {body : Bytes} {bodies : List Bytes} {faults : List (Nat × Text)}

-- The values of a record can be read.
def Accepts (layout : Layout) (body : Bytes) : Prop :=
  layout.length ≤ body.length ∧ ∃ v, layout.value body = .ok v

-- What is wrong with a record: it is too short, or its values cannot be read.
inductive Rejects (layout : Layout) (body : Bytes) : Text → Prop
  | short : body.length < layout.length → Rejects layout body (Text.ofNat body.length ++ " bytes is short".toList)
  | fault {fault : AccessFault} : layout.length ≤ body.length → layout.value body = .error fault →
    fault.kind.isCopybookFault → Rejects layout body fault.message

-- Records, the first of them being number `index`, fall into as many that can be read and the others, each with its
-- number and what is wrong with it.
inductive Sorts (layout : Layout) : Nat → List Bytes → Nat → List (Nat × Text) → Prop
  | nil {index : Nat} : Sorts layout index [] 0 []
  | accepted {index decoded : Nat} {body : Bytes} {bodies : List Bytes} {faults : List (Nat × Text)} :
    layout.Accepts body → Sorts layout (index + 1) bodies decoded faults →
    Sorts layout index (body :: bodies) (decoded + 1) faults
  | rejected {index decoded : Nat} {body : Bytes} {bodies : List Bytes} {faults : List (Nat × Text)} {s : Text} :
    layout.Rejects body s → Sorts layout (index + 1) bodies decoded faults →
    Sorts layout index (body :: bodies) decoded ((index, s) :: faults)

namespace Sorts

theorem total (h : layout.Sorts index bodies decoded faults) : decoded + faults.length = bodies.length := by
  induction h
  case nil => rfl
  case accepted => simp only [List.length_cons]; omega
  case rejected => simp only [List.length_cons]; omega

theorem rejects (h : layout.Sorts index bodies decoded faults) {i : Nat} {s : Text} (hm : (i, s) ∈ faults) :
    ∃ k body, i = index + k ∧ bodies[k]? = some body ∧ layout.Rejects body s := by
  induction h
  case nil => contradiction
  case accepted hi =>
    have ⟨k, body, hk, hb, hr⟩ := hi hm
    exact ⟨k + 1, body, by omega, hb, hr⟩
  case rejected hr _ hi =>
    cases List.mem_cons.mp hm
    case inl he =>
      cases he
      exact ⟨0, _, rfl, rfl, hr⟩
    case inr hm =>
      have ⟨k, body, hk, hb, hr⟩ := hi hm
      exact ⟨k + 1, body, by omega, hb, hr⟩

theorem accepts (h : layout.Sorts index bodies decoded faults) {k : Nat} (hb : bodies[k]? = some body)
    (hn : index + k ∉ faults.map (·.1)) : layout.Accepts body := by
  induction h generalizing k
  case nil => contradiction
  case accepted index _ _ _ _ ha _ hi =>
    cases k
    case zero => exact Option.some.inj hb ▸ ha
    case succ k => exact hi hb (by rwa [Nat.add_right_comm])
  case rejected index _ _ _ _ _ _ _ hi =>
    rw [List.map_cons, List.mem_cons, not_or] at hn
    cases k
    case zero => exact absurd rfl hn.left
    case succ k => exact hi hb (by rw [Nat.add_right_comm]; exact hn.right)

theorem ascending (h : layout.Sorts index bodies decoded faults) : (faults.map (·.1)).Pairwise (· < ·) := by
  induction h
  case nil => exact .nil
  case accepted hi => exact hi
  case rejected h hi =>
    refine List.pairwise_cons.mpr ⟨List.forall_mem_map.mpr fun (i, s) hm => ?_, hi⟩
    have ⟨k, _, hk, _⟩ := h.rejects hm
    simp only
    omega

end Sorts
end Layout

namespace Report

variable {r : Report} {applies : Bool} {w : Warning}

-- Nothing has been said of the records yet.
structure Untold (r : Report) : Prop where
  errors : r.errors = []
  decodeErrors : .decodeErrors ∉ r.warnings
  tooManyRecords : .tooManyRecords ∉ r.warnings

theorem Untold.warnIf (h : r.Untold) (hd : w ≠ .decodeErrors) (ht : w ≠ .tooManyRecords) :
    (r.warnIf applies w).Untold := by
  refine ⟨errors_warnIf.trans h.errors, fun hm => ?_, fun hm => ?_⟩ <;> rw [mem_warnings_warnIf] at hm
  · exact hm.elim h.decodeErrors fun hm => hd hm.right.symm
  · exact hm.elim h.tooManyRecords fun hm => ht hm.right.symm

end Report

namespace Manifest

variable {m : Manifest} {tree : FileTree} {others : Encodings} {r r' : Report} {layout : Layout} {checks : Settings}
variable {max size : Nat}
variable {bodies : List Bytes} {ns ns' : List Notice}

-- What a manifest says of how many records are looked at and decoded.
def Asks (m : Manifest) (max size : Nat) : Prop :=
  ∃ checks, m.checkSettings = .ok checks ∧ checks.Caps max ∧ checks.Samples size

-- What a report says of a record, by its number.
def entry (fault : Nat × Text) : Text :=
  "record ".toList ++ Text.ofNat fault.1 ++ ": ".toList ++ fault.2

-- The number of records that are decoded, of so many that there are.
def sampleOf (count max size : Nat) : Nat :=
  min size (if max = 0 then count else min count max)

-- The counts in a report on some records. Of those that are decoded, the faulty ones are in it with their numbers, in
-- ascending order, and the others are as many as it says.
structure Accounts (r : Report) (layout : Layout) (bodies : List Bytes) (max size : Nat) : Prop where
  records : r.records = bodies.length
  total : r.decoded + r.errors.length = sampleOf bodies.length max size
  named : ∃ faults : List (Nat × Text), r.errors = faults.map entry ∧ (faults.map (·.1)).Pairwise (· < ·) ∧
    (∀ i s, (i, s) ∈ faults → i < sampleOf bodies.length max size ∧
      ∃ body, bodies[i]? = some body ∧ layout.Rejects body s) ∧
    ∀ i < sampleOf bodies.length max size, ∀ body, bodies[i]? = some body → i ∉ faults.map (·.1) → layout.Accepts body
  decodeErrors : .decodeErrors ∈ r.warnings ↔ r.errors ≠ []
  tooManyRecords : .tooManyRecords ∈ r.warnings ↔ 0 < max ∧ max < r.records

section Settings

-- The limit as it is looked up: none if it is zero.
def limitOf (max : Nat) : Option Int :=
  if max = 0 then none else some (max : Int)

theorem limit_of_caps (h : checks.Caps max) : limit checks = .ok (limitOf max) := by
  rcases h with ⟨hv, rfl⟩ | ⟨hv, hs⟩ <;> simp only [limit, limitOf, hv]
  case inl => rfl
  case inr =>
    by_cases hz : max = 0
    case pos => rw [if_pos hz, if_neg fun h => hs.mp h hz]
    case neg =>
      rw [if_neg hz, if_pos (hs.mpr hz)]
      rfl

theorem sampleSize_of_samples (h : checks.Samples size) : sampleSize checks = .ok (size : Int) := by
  unfold sampleSize
  rcases h with ⟨hv, rfl⟩ | ⟨v, hv, hs⟩ <;> rw [hv]
  case inl => rfl
  case inr => exact hs

theorem firstOf_natCast {α : Type} (n : Nat) (as : List α) : firstOf (n : Int) as = as.take n := by
  rw [firstOf, if_neg (by omega), Int.toNat_natCast]

theorem firstOf_capped (bodies : List Bytes) (max size : Nat) :
    firstOf size (capped (limitOf max) bodies) = bodies.take (sampleOf bodies.length max size) := by
  rw [firstOf_natCast, sampleOf, limitOf]
  by_cases hz : max = 0
  case pos =>
    rw [if_pos hz, if_pos hz, capped, List.take_eq_take_iff]
    omega
  case neg =>
    rw [if_neg hz, if_neg hz, capped, firstOf_natCast, List.take_take, List.take_eq_take_iff]
    omega

end Settings

section Sample

theorem problem_cases {body : Bytes} {p : Option Text} (h : problem layout body = .ok p) :
    (p = none ∧ layout.Accepts body) ∨ ∃ s, p = some s ∧ layout.Rejects body s := by
  unfold problem at h
  split at h
  case isTrue hl =>
    cases h
    exact .inr ⟨_, rfl, .short hl⟩
  case isFalse hl =>
    have hl := Nat.not_lt.mp hl
    cases hv : layout.value body <;> simp only [hv] at h
    case ok v =>
      cases h
      exact .inl ⟨rfl, hl, v, hv⟩
    case error fault =>
      split at h
      case isTrue hk =>
        cases h
        exact .inr ⟨_, rfl, .fault hl hv hk⟩
      case isFalse => contradiction

-- One record after another is accepted or named.
theorem decodeSample_sorts {index decoded : Nat} {errors : List Text}
    (h : decodeSample layout index bodies = .ok (decoded, errors)) :
    ∃ faults, errors = faults.map entry ∧ layout.Sorts index bodies decoded faults := by
  induction bodies generalizing index decoded errors
  case nil =>
    cases h
    exact ⟨[], rfl, .nil⟩
  case cons body bodies hi =>
    have ⟨p, hp, h⟩ := bind_eq_ok_iff.mp h
    have ⟨(decoded', errors'), hd, h⟩ := bind_eq_ok_iff.mp h
    obtain ⟨faults, rfl, hs⟩ := hi hd
    rcases problem_cases hp with ⟨rfl, ha⟩ | ⟨s, rfl, hr⟩ <;> cases h
    · exact ⟨faults, rfl, .accepted ha hs⟩
    · exact ⟨(index, s) :: faults, rfl, .rejected hr hs⟩

end Sample

section Stages

theorem checkHash_untold (h : m.checkHash tree r = .ok r') (hr : r.Untold) :
    r'.Untold ∧ r'.recordLength = r.recordLength := by
  rcases checkHash_cases h with rfl | ⟨digest, same, rfl⟩
  · exact ⟨hr, rfl⟩
  · have hr : { r with digest := some digest, digestMatches := some same : Report }.Untold :=
      ⟨hr.errors, hr.decodeErrors, hr.tooManyRecords⟩
    exact ⟨hr.warnIf (by decide) (by decide), Report.recordLength_warnIf⟩

-- A copybook that compiles is heard of by the length of its records.
theorem checkCopybook_untold {layout? : Option Layout}
    (h : (m.checkCopybook tree others r).Yields [] (r', layout?) ns) (hr : r.Untold) :
    (layout? = none ∧ r'.recordLength = r.recordLength) ∨
      ∃ l, layout? = some l ∧ m.layout? tree others = some l ∧ r'.recordLength = some l.length ∧ r'.Untold := by
  rcases checkCopybook_cases h with ⟨hl, ⟨_, rfl⟩ | rfl | ⟨_, rfl⟩⟩ | ⟨l, hl, hc, rfl⟩
  · exact .inl ⟨hl, rfl⟩
  · exact .inl ⟨hl, rfl⟩
  · exact .inl ⟨hl, rfl⟩
  · have hr : { r with recordLength := some l.length : Report }.Untold :=
      ⟨hr.errors, hr.decodeErrors, hr.tooManyRecords⟩
    exact .inr ⟨l, hl, hc, Report.recordLength_warnIf, hr.warnIf (by decide) (by decide)⟩

theorem tooManyRecords_mem_counted (hr : r.Untold) (count : Nat) (trailing : Bool) (max : Nat) :
    .tooManyRecords ∈ (counted r count trailing (limitOf max)).warnings ↔ 0 < max ∧ max < count := by
  have ht : .tooManyRecords ∉ ({ r with records := count }.warnIf trailing .trailingBytes).warnings := by
    rw [Report.mem_warnings_warnIf]
    simp [hr.tooManyRecords]
  rw [counted, Report.mem_warnings_warnIf, or_iff_right ht, limitOf]
  split
  case isTrue hz => simp [hz]
  case isFalse hz => simp [Nat.pos_of_ne_zero hz]

theorem decodeErrors_not_mem_counted (hr : r.Untold) (count : Nat) (trailing : Bool) (limit? : Option Int) :
    .decodeErrors ∉ (counted r count trailing limit?).warnings := by
  simp [counted, Report.mem_warnings_warnIf, hr.decodeErrors]

-- The counts are right once the records have been decoded, of which nothing had been said before.
theorem checkSample_accounts (trailing : Bool) (hr : r.Untold) (hs : checks.Samples size)
    (h : checkSample layout checks (capped (limitOf max) bodies)
      (counted r bodies.length trailing (limitOf max)) = .ok r') :
    Accounts r' layout bodies max size := by
  obtain ⟨size', decoded, errors, hs', hd, rfl⟩ := checkSample_cases h
  obtain rfl : size' = size := Except.ok.inj (hs'.symm.trans (sampleSize_of_samples hs))
  rw [firstOf_capped] at hd
  obtain ⟨faults, rfl, hf⟩ := decodeSample_sorts hd
  have herrors : (counted r bodies.length trailing (limitOf max)).errors = [] := by
    simp [counted, hr.errors]
  have hlength : (bodies.take (sampleOf bodies.length max size)).length = sampleOf bodies.length max size := by
    rw [List.length_take, sampleOf]
    split <;> omega
  refine ⟨?_, ?_, ⟨faults, ?_, hf.ascending, fun i s hm => ?_, fun i hi body hb hn => ?_⟩, ?_, ?_⟩
  · simp [counted]
  · rw [Report.decoded_warnIf, Report.errors_warnIf, herrors, List.nil_append, List.length_map, hf.total, hlength]
  · rw [Report.errors_warnIf, herrors, List.nil_append]
  · obtain ⟨i, body, rfl, hb, hr⟩ := hf.rejects hm
    rw [Nat.zero_add]
    have hi : i < sampleOf bodies.length max size := hlength ▸ (List.getElem?_eq_some_iff.mp hb).choose
    exact ⟨hi, body, by rwa [List.getElem?_take_of_lt hi] at hb, hr⟩
  · exact hf.accepts (k := i) (by rwa [List.getElem?_take_of_lt hi]) (by rwa [Nat.zero_add])
  · rw [Report.mem_warnings_warnIf, or_iff_right (decodeErrors_not_mem_counted hr _ _ _), herrors]
    simp
  · rw [Report.mem_warnings_warnIf, or_iff_left (by simp)]
    exact (tooManyRecords_mem_counted hr ..).trans (by simp [counted])

theorem checkRecords_recordLength {layout? : Option Layout} (h : (m.checkRecords tree layout? r).Yields ns r' ns') :
    r'.recordLength = r.recordLength := by
  rcases checkRecords_cases h with rfl | ⟨_, _, _, _, _, _, _, _, _, ⟨_, rfl⟩ | ⟨_, _, hs⟩⟩
  · rfl
  · simp [counted]
  · obtain ⟨_, _, _, _, _, rfl⟩ := checkSample_cases hs
    simp [counted]

theorem checkRecords_accounts (h : (m.checkRecords tree (some layout) r).Yields ns r' ns') (hr : r.Untold)
    (hm : m.Asks max size) (hk : .lengthUnknown ∉ r'.warnings) : ∃ data rs, tree.read m.path = .ok data ∧
      m.readings (m.recordLength (some layout)) data = .ok rs ∧
      Accounts r' layout ((frames rs).map Frame.body) max size := by
  obtain ⟨checks, hc, hmax, hsize⟩ := hm
  rcases checkRecords_cases h with rfl | ⟨data, rs, checks', limit?, hd, hrs, hc', hl, _, h⟩
  · simp [Report.warn] at hk
  · obtain rfl : checks' = checks := Except.ok.inj (hc'.symm.trans hc)
    obtain rfl := Except.ok.inj (hl.symm.trans (limit_of_caps hmax))
    rcases h with ⟨hn, _⟩ | ⟨l, hl, hs⟩
    · contradiction
    · cases hl
      refine ⟨data, rs, hd, hrs, checkSample_accounts
        (m.hasTrailing (m.recordLength (some layout)) data) hr hsize ?_⟩
      rwa [List.length_map]

end Stages

-- The counts of a report add up if the copybook compiles and the length of the records is known. All records that the
-- dataset falls into are counted. As many as the manifest asks for are decoded: these are read, or named with what is
-- wrong with them. The report warns of those that are named, and of more records than the manifest allows.
theorem counts_add_up {n : Nat} (h : (m.validate tree others).result = (.ok r, ns)) (hn : r.recordLength = some n)
    (hk : .lengthUnknown ∉ r.warnings) (hm : m.Asks max size) :
    ∃ layout data rs, m.layout? tree others = some layout ∧ layout.length = n ∧ tree.read m.path = .ok data ∧
      m.readings (m.recordLength (some layout)) data = .ok rs ∧
      Accounts r layout ((frames rs).map Frame.body) max size := by
  have ⟨entry, _, he, h⟩ := (yields_result h).bind
  obtain ⟨_, rfl⟩ := he.lift
  simp only at h
  split at h
  case isTrue =>
    cases h.pure.left
    contradiction
  case isFalse =>
    have ⟨r₁, _, hy, h⟩ := h.bind
    obtain ⟨hh, rfl⟩ := hy.lift
    have ⟨(r₂, layout?), before, hc, h⟩ := h.bind
    obtain ⟨hu, hl⟩ := checkHash_untold hh ⟨rfl, by simp, by simp⟩
    rw [checkRecords_recordLength h] at hn
    rcases checkCopybook_untold hc hu with ⟨_, hl'⟩ | ⟨layout, rfl, hlayout, hl', hu⟩
    · cases (hl'.trans hl).symm.trans hn
    · have ⟨data, rs, hd, hrs, ha⟩ := checkRecords_accounts h hu hm hk
      exact ⟨layout, data, rs, hlayout, Option.some.inj (hl'.symm.trans hn), hd, hrs, ha⟩

-- Records with descriptor words, of two digits each, of which three are looked at.
def mixed : Manifest :=
  { loose with
    copybook := some (Location.ofText "d.cpy".toList)
    checks := .record [("max_records".toList, .int 3)] }

def mixedTree : FileTree :=
  .ofFiles [
    (["d.bin".toList],
      [0, 6, 0, 0, 0xf1, 0xf2, 0, 5, 0, 0, 0xf3, 0, 6, 0, 0, 1, 0xff, 0, 6, 0, 0, 0xf4, 0xf5]),
    (["d.cpy".toList], Utf8.encode "01 A PIC 99.".toList)]

-- There are four records. The second one is too short, and the third one has a byte that is no digit.
theorem mixed_counted : ∃ r ns, (mixed.validate mixedTree .none).result = (.ok r, ns) ∧ r.recordLength = some 2 ∧
    .lengthUnknown ∉ r.warnings ∧ mixed.Asks 3 5 ∧ r.records = 4 ∧ r.decoded = 1 ∧
    r.errors = [
      "record 1: 1 bytes is short".toList, "record 2: byte 0xff is not a zoned decimal digit".toList] ∧
    r.warnings = [.tooManyRecords, .decodeErrors] ∧ ∃ layout data rs, mixed.layout? mixedTree .none = some layout ∧
      layout.length = 2 ∧ mixedTree.read mixed.path = .ok data ∧
      mixed.readings (mixed.recordLength (some layout)) data = .ok rs ∧
      Accounts r layout ((frames rs).map Frame.body) 3 5 := by
  have hr : ((mixed.validate mixedTree .none).result.1.toOption.map fun r =>
      (r.recordLength, (r.records, r.decoded), r.errors, r.warnings)) =
        some (some 2, (4, 1),
          ["record 1: 1 bytes is short".toList, "record 2: byte 0xff is not a zoned decimal digit".toList],
          [.tooManyRecords, .decodeErrors]) := by
    decide +kernel
  have ⟨r, hr, hp⟩ := Option.map_eq_some_iff.mp hr
  simp only [Prod.mk.injEq] at hp
  obtain ⟨hn, ⟨hrecords, hdecoded⟩, herrors, hw⟩ := hp
  have h : (mixed.validate mixedTree .none).result = (.ok r, _) := Prod.ext (toOption_eq_some_iff.mp hr) rfl
  have hk : .lengthUnknown ∉ r.warnings := by
    rw [hw]
    decide
  have hm : mixed.Asks 3 5 := ⟨_, rfl, .inr ⟨rfl, by decide⟩, .inl ⟨rfl, rfl⟩⟩
  exact ⟨r, _, h, hn, hk, hm, hrecords, hdecoded, herrors, hw, counts_add_up h hn hk hm⟩

end Manifest
end Copybook
