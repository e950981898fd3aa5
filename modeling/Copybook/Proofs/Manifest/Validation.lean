import Copybook.Manifest.Validation
import Copybook.Proofs.Dataset.Accounting

/-!
What a report says about a dataset by warning of nothing. The copybook compiles, the dataset can be read with the length
that the manifest or its layout gives, and it holds no more records than the manifest allows; but only of records of one
length does the report say that no bytes are left.
-/

namespace Copybook

open Framing Noting Reading

namespace Report

variable {r : Report} {applies : Bool} {w w' : Warning}

theorem mem_warnings_warnIf : w' ∈ (r.warnIf applies w).warnings ↔ w' ∈ r.warnings ∨ applies ∧ w' = w := by
  cases applies <;> simp [warnIf, warn]

theorem warnings_warnIf_eq_nil_iff : (r.warnIf applies w).warnings = [] ↔ applies = false ∧ r.warnings = [] := by
  cases applies <;> simp [warnIf, warn]

@[simp]
theorem recordLength_warnIf : (r.warnIf applies w).recordLength = r.recordLength := by
  cases applies <;> rfl

@[simp]
theorem records_warnIf : (r.warnIf applies w).records = r.records := by
  cases applies <;> rfl

@[simp]
theorem errors_warnIf : (r.warnIf applies w).errors = r.errors := by
  cases applies <;> rfl

@[simp]
theorem decoded_warnIf : (r.warnIf applies w).decoded = r.decoded := by
  cases applies <;> rfl

end Report

namespace Manifest

variable {m : Manifest} {tree : FileTree} {others : Encodings} {r r' : Report} {layout : Option Layout}
variable {data : Bytes} {rs : List Reading} {ns ns' : List Notice}

-- The layout of the copybook, if the manifest has one that compiles.
def layout? (m : Manifest) (tree : FileTree) (others : Encodings) : Option Layout := do
  let source ← (tree.readText (← m.copybook)).toOption
  (Layout.compile source (m.codec others)).result.1.toOption

theorem layout?_eq_some_iff {l : Layout} : m.layout? tree others = some l ↔
    ∃ copybook, m.copybook = some copybook ∧ ∃ source, tree.readText copybook = .ok source ∧
      (Layout.compile source (m.codec others)).result.1 = .ok l := by
  simp only [layout?, Option.bind_eq_bind, Option.bind_eq_some_iff, toOption_eq_some_iff]

-- The copybook compiles if there is one, and the layout has the length that the manifest gives if it gives one.
structure Fits (m : Manifest) (tree : FileTree) (others : Encodings) (layout : Option Layout) : Prop where
  eq : layout = m.layout? tree others
  compiles : m.copybook.isSome → layout.isSome
  agrees : ∀ l, layout = some l → differs m.length l.length = false

-- The dataset is there and can be read, `rs` being what comes up. There are not too many records in it, and no bytes
-- are left after records of one length.
structure Passes (m : Manifest) (tree : FileTree) (layout : Option Layout) (data : Bytes) (rs : List Reading) :
    Prop where
  present : tree.read m.path = .ok data
  readings : m.readings (m.recordLength layout) data = .ok rs
  whole : m.hasTrailing (m.recordLength layout) data = false
  allowed : ∃ checks limit?, m.checkSettings = .ok checks ∧ limit checks = .ok limit? ∧
    ∀ n, limit? = some n → (frames rs).length ≤ n

-- The records that are looked at if that is limited.
def capped : Option Int → List Bytes → List Bytes
  | some n, bodies => firstOf n bodies
  | none, bodies => bodies

section Stages

-- What each stage of a check adds to the report, one case for each way in which it ends.
theorem checkHash_cases (h : m.checkHash tree r = .ok r') : r' = r ∨
    ∃ digest same, r' = { r with digest := some digest, digestMatches := some same }.warnIf (!same) .hashMismatch := by
  unfold checkHash at h
  split at h
  case isTrue =>
    cases h
    exact .inl rfl
  case isFalse =>
    have ⟨(_, _), _, h⟩ := bind_eq_ok_iff.mp h
    simp only at h
    split at h
    case _ => contradiction
    case _ =>
      have ⟨_, _, h⟩ := bind_eq_ok_iff.mp h
      cases h
      exact .inr ⟨_, _, rfl⟩

theorem checkCopybook_cases (h : (m.checkCopybook tree others r).Yields [] (r', layout) ns) :
    (layout = none ∧ (m.copybook = none ∧ r' = r ∨ r' = r.warn .copybookMissing ∨
      ∃ message, r' = { r.warn .copybookInvalid with errors := r.errors ++ [message] })) ∨
    ∃ l, layout = some l ∧ m.layout? tree others = some l ∧
      r' = { r with recordLength := some l.length }.warnIf (differs m.length l.length) .lengthMismatch := by
  unfold checkCopybook at h
  split at h
  case _ hc =>
    cases h.pure.left
    exact .inl ⟨rfl, .inl ⟨hc, rfl⟩⟩
  case _ copybook hc =>
    have ⟨_, _, he, h⟩ := h.bind
    obtain ⟨_, rfl⟩ := he.lift
    split at h
    case _ =>
      cases h.pure.left
      exact .inl ⟨rfl, .inr (.inl rfl)⟩
    case _ =>
      have ⟨source, _, hl, h⟩ := h.bind
      obtain ⟨hs, rfl⟩ := hl.lift
      have ⟨outcome, _, ho, h⟩ := h.bind
      have ho : (Layout.compile source (m.codec others)).result.1 = outcome := congrArg Prod.fst ho.attempt
      split at h
      case _ l _ =>
        cases h.pure.left
        exact .inr ⟨l, rfl, layout?_eq_some_iff.mpr ⟨copybook, hc, source, mapError_eq_ok_iff.mp hs, ho⟩, rfl⟩
      case _ =>
        split at h
        case isTrue =>
          have ⟨_, _, _, h⟩ := h.bind
          cases h.pure.left
          exact .inl ⟨rfl, .inr (.inr ⟨_, rfl⟩)⟩
        case isFalse => exact absurd h (not_yields_throw _)

theorem checkSample_cases {l : Layout} {checks : Settings} {bodies : List Bytes}
    (h : checkSample l checks bodies r = .ok r') : ∃ size decoded errors, sampleSize checks = .ok size ∧
      decodeSample l 0 (firstOf size bodies) = .ok (decoded, errors) ∧
      r' = { r with decoded := decoded, errors := r.errors ++ errors }.warnIf (!(r.errors ++ errors).isEmpty)
        .decodeErrors := by
  have ⟨size, hs, h⟩ := bind_eq_ok_iff.mp h
  have ⟨(decoded, errors), hd, h⟩ := bind_eq_ok_iff.mp h
  cases h
  exact ⟨size, decoded, errors, hs, hd, rfl⟩

-- The report once records have been counted, and before any of them is decoded.
def counted (r : Report) (count : Nat) (trailing : Bool) (limit? : Option Int) : Report :=
  { ({ r with records := count }.warnIf trailing .trailingBytes).warnIf
      (limit?.any fun n => decide (n < (count : Int))) .tooManyRecords with limit := limit? }

theorem checkRecords_cases (h : (m.checkRecords tree layout r).Yields ns r' ns') :
    r' = r.warn .lengthUnknown ∨
    ∃ data rs checks limit?, tree.read m.path = .ok data ∧ m.readings (m.recordLength layout) data = .ok rs ∧
      m.checkSettings = .ok checks ∧ limit checks = .ok limit? ∧ ns' = ns ++ notices rs ∧
      let r₁ := counted r (frames rs).length (m.hasTrailing (m.recordLength layout) data) limit?
      (layout = none ∧ r' = r₁ ∨
        ∃ l, layout = some l ∧ checkSample l checks (capped limit? ((frames rs).map Frame.body)) r₁ = .ok r') := by
  unfold checkRecords at h
  by_cases hu : m.framing = .fixed ∧ !(m.recordLength layout).isSet
  case pos =>
    rw [if_pos hu] at h
    exact .inl h.pure.left.symm
  case neg =>
    rw [if_neg hu] at h
    have ⟨data, _, hy, h⟩ := h.bind
    obtain ⟨hread, rfl⟩ := hy.lift
    have ⟨rs, _, hy, h⟩ := h.bind
    obtain ⟨hrs, rfl⟩ := hy.lift
    have ⟨bodies, _, hy, h⟩ := h.bind
    obtain ⟨hb, rfl⟩ := traverse_yields hy
    have ⟨checks, _, hy, h⟩ := h.bind
    obtain ⟨hcs, rfl⟩ := hy.lift
    have ⟨limit?, _, hy, h⟩ := h.bind
    obtain ⟨hlm, rfl⟩ := hy.lift
    obtain rfl : (frames rs).map Frame.body = bodies := by
      rw [←List.forall₂_eq_eq_eq, List.forall₂_map_left_iff]
      exact hb.imp fun _ _ h => Except.ok.inj h
    refine .inr ⟨data, rs, checks, limit?, mapError_eq_ok_iff.mp hread, hrs, hcs, hlm, ?_⟩
    have hb : counted r (frames rs).length (m.hasTrailing (m.recordLength layout) data) limit? =
        counted r ((frames rs).map Frame.body).length (m.hasTrailing (m.recordLength layout) data) limit? := by
      rw [List.length_map]
    rw [hb]
    rcases layout with _ | l
    · have ⟨hr, hn⟩ := h.pure
      exact ⟨hn.symm, .inl ⟨rfl, hr.symm⟩⟩
    · have ⟨hs, hn⟩ := h.lift
      refine ⟨hn.symm, .inr ⟨l, rfl, ?_⟩⟩
      cases limit? <;> exact hs

theorem checkHash_clean (h : m.checkHash tree r = .ok r') (hw : r'.warnings = []) :
    r.warnings = [] ∧ r'.recordLength = r.recordLength := by
  rcases checkHash_cases h with rfl | ⟨_, _, rfl⟩
  · exact ⟨hw, rfl⟩
  · exact ⟨(Report.warnings_warnIf_eq_nil_iff.mp hw).right, Report.recordLength_warnIf⟩

theorem checkCopybook_clean (h : (m.checkCopybook tree others r).Yields [] (r', layout) ns) (hw : r'.warnings = []) :
    r.warnings = [] ∧ (r.recordLength = none → r'.recordLength = layout.map Layout.length) ∧
      m.Fits tree others layout := by
  rcases checkCopybook_cases h with ⟨rfl, ⟨hc, rfl⟩ | rfl | ⟨_, rfl⟩⟩ | ⟨l, rfl, hl, rfl⟩
  · exact ⟨hw, id, by rw [layout?, hc]; rfl, by simp [hc], nofun⟩
  · simp [Report.warn] at hw
  · simp [Report.warn] at hw
  · obtain ⟨hd, hw⟩ := Report.warnings_warnIf_eq_nil_iff.mp hw
    exact ⟨hw, fun _ => Report.recordLength_warnIf, hl.symm, fun _ => rfl, fun _ he => Option.some.inj he ▸ hd⟩

theorem checkSample_clean {l : Layout} {checks : Settings} {bodies : List Bytes}
    (h : checkSample l checks bodies r = .ok r') (hw : r'.warnings = []) :
    r.warnings = [] ∧ r'.recordLength = r.recordLength ∧ r'.records = r.records := by
  have ⟨_, _, _, _, _, hr⟩ := checkSample_cases h
  rw [hr] at hw ⊢
  exact ⟨(Report.warnings_warnIf_eq_nil_iff.mp hw).right, Report.recordLength_warnIf, Report.records_warnIf⟩

theorem counted_clean {count : Nat} {trailing : Bool} {limit? : Option Int}
    (hw : (counted r count trailing limit?).warnings = []) :
    r.warnings = [] ∧ trailing = false ∧ ∀ n, limit? = some n → count ≤ n := by
  obtain ⟨ha, hw⟩ := Report.warnings_warnIf_eq_nil_iff.mp hw
  obtain ⟨ht, hw⟩ := Report.warnings_warnIf_eq_nil_iff.mp hw
  refine ⟨hw, ht, ?_⟩
  rintro n rfl
  simpa using ha

theorem checkRecords_clean (h : (m.checkRecords tree layout r).Yields ns r' ns') (hw : r'.warnings = []) :
    r.warnings = [] ∧ r'.recordLength = r.recordLength ∧
      ∃ data rs, m.Passes tree layout data rs ∧ r'.records = (frames rs).length ∧ ns' = ns ++ notices rs := by
  rcases checkRecords_cases h with rfl | ⟨data, rs, checks, limit?, hread, hrs, hcs, hlm, hn, h⟩
  · simp [Report.warn] at hw
  · have ⟨hc, hl, hr⟩ :
        (counted r (frames rs).length (m.hasTrailing (m.recordLength layout) data) limit?).warnings = [] ∧
          r'.recordLength = r.recordLength ∧ r'.records = (frames rs).length := by
      rcases h with ⟨_, rfl⟩ | ⟨l, _, hs⟩
      · exact ⟨hw, by simp [counted], by simp [counted]⟩
      · have ⟨hw, hl, hr⟩ := checkSample_clean hs hw
        exact ⟨hw, hl.trans (by simp [counted]), hr.trans (by simp [counted])⟩
    have ⟨hw, ht, ha⟩ := counted_clean hc
    exact ⟨hw, hl, data, rs, ⟨hread, hrs, ht, checks, limit?, hcs, hlm, ha⟩, hr, hn⟩

end Stages

-- A report without warnings is on a dataset that passes. What is noticed last comes up when it is read.
theorem validate_clean (h : (m.validate tree others).result = (.ok r, ns)) (hw : r.warnings = []) :
    ∃ layout data rs, m.Fits tree others layout ∧ m.Passes tree layout data rs ∧
      r.recordLength = layout.map Layout.length ∧ r.records = (frames rs).length ∧ notices rs <:+ ns := by
  have ⟨entry, _, he, h⟩ := (yields_result h).bind
  obtain ⟨_, rfl⟩ := he.lift
  simp only at h
  split at h
  case isTrue =>
    cases h.pure.left
    simp [Report.warn] at hw
  case isFalse =>
    have ⟨r₁, _, hy, h⟩ := h.bind
    obtain ⟨hh, rfl⟩ := hy.lift
    have ⟨(r₂, layout), before, hc, h⟩ := h.bind
    obtain ⟨hw, hl, data, rs, hp, hr, hn⟩ := checkRecords_clean h hw
    obtain ⟨hw, hl', hf⟩ := checkCopybook_clean hc hw
    obtain ⟨_, hnone⟩ := checkHash_clean hh hw
    exact ⟨layout, data, rs, hf, hp, hl.trans (hl' (hnone.trans rfl)), hr, hn ▸ List.suffix_append ..⟩

theorem readings_cases {length : Value} (h : m.readings length data = .ok rs) :
    ∃ length?, m.framing.read length? data = .ok rs ∧
      (m.framing = .fixed → ∃ n, lengthOf length = .ok n ∧ length? = some n) := by
  unfold readings at h
  cases hf : m.framing <;> rw [hf] at h
  case fixed =>
    have ⟨_, hl, h⟩ := bind_eq_ok_iff.mp h
    have ⟨n, hn, he⟩ := map_eq_ok_iff.mp hl
    exact ⟨_, mapError_eq_ok_iff.mp h, fun _ => ⟨n, hn, he.symm⟩⟩
  all_goals
    have ⟨_, hn, h⟩ := bind_eq_ok_iff.mp h
    exact ⟨_, mapError_eq_ok_iff.mp h, nofun⟩

-- Records of one length leave nothing if that divides the length of the dataset.
theorem left_of_not_hasTrailing {length : Value} {n : Int} {d : Division} (hf : m.framing = .fixed)
    (hl : lengthOf length = .ok n) (hd : Framing.fixed.Divides (some n) data d)
    (ht : m.hasTrailing length data = false) : d.left = 0 := by
  have hm : (data.length : Int) % n = 0 := by simpa [hasTrailing, hf, hl] using ht
  have := hd.left_fixed
  omega

-- A dataset that there is nothing to warn of falls into the records that are counted and rests. Records of one length
-- leave nothing. Others leave nothing exactly if nothing is noticed of the dataset, of which the report does not warn,
-- and no rest is too small to be noticed.
theorem unwarned_divided (h : (m.validate tree others).result = (.ok r, ns)) (hw : r.warnings = []) :
    ∃ data length? rs d, tree.read m.path = .ok data ∧ m.framing.read length? data = .ok rs ∧
      (m.framing = .fixed → ∃ n, lengthOf (m.recordLength (m.layout? tree others)) = .ok n ∧ length? = some n) ∧
      m.framing.Divides length? data d ∧ frames rs = d.records.map m.framing.frameOf ∧
      r.records = d.records.length ∧ notices rs <:+ ns ∧ (m.framing = .fixed → d.left = 0) ∧
      (d.left = 0 ↔ notices rs = [] ∧
        ∀ rest ∈ d.rests, rest.length = 0 ∨ m.framing.leastNoticed ≤ rest.length) := by
  have ⟨layout, data, rs, hf, hp, _, hr, hn⟩ := validate_clean h hw
  have ⟨length?, hread, hl⟩ := readings_cases hp.readings
  have ⟨d, hd, hfs, hns⟩ := Divides.of_read hread
  refine ⟨data, length?, rs, d, hp.present, hread, hf.eq ▸ hl, hd, hfs, ?_, hn, fun hfix => ?_, ?_⟩
  · rw [hr, hfs, List.length_map]
  · obtain ⟨n, hn, rfl⟩ := hl hfix
    exact left_of_not_hasTrailing hfix hn (hfix ▸ hd) hp.whole
  · rw [hns, Division.left_eq_zero_iff]
    constructor
    · exact fun h => ⟨fun rest hr => h rest hr ▸ m.framing.leastNoticed_pos, fun rest hr => .inl (h rest hr)⟩
    · exact fun ⟨hs, h⟩ rest hr => (h rest hr).resolve_right (Nat.not_le.mpr (hs rest hr))

-- A dataset of records with descriptor words, and nothing more that is said of it.
def loose : Manifest where
  name := "d".toList
  path := Location.ofText "d.bin".toList
  copybook := none
  codePage := "cp037".toList
  framing := .records
  length := .null
  trim := true
  hash := .null
  notes := .null
  checks := .null

def looseTree (data : Bytes) : FileTree :=
  .ofFiles [(["d.bin".toList], data)]

-- One record is counted, and nothing says that the last byte is no part of one.
theorem loose_divided :
    let tree := looseTree [0, 5, 0, 0, 0xc1, 7]
    let r : Report := { manifest := loose, size := some 6, records := 1 }
    (loose.validate tree .none).result = (.ok r, []) ∧ r.warnings = [] ∧
      ∃ data length? rs d, tree.read loose.path = .ok data ∧ Framing.records.read length? data = .ok rs ∧
        (Framing.records = .fixed → ∃ n,
          lengthOf (loose.recordLength (loose.layout? tree .none)) = .ok n ∧ length? = some n) ∧
        Framing.records.Divides length? data d ∧ frames rs = d.records.map Framing.records.frameOf ∧
        1 = d.records.length ∧ notices rs <:+ [] ∧ (Framing.records = .fixed → d.left = 0) ∧
        (d.left = 0 ↔ notices rs = [] ∧ ∀ rest ∈ d.rests, rest.length = 0 ∨ 4 ≤ rest.length) := by
  intro tree r
  have h : (loose.validate tree .none).result = (.ok r, []) := by cbv
  exact ⟨h, rfl, unwarned_divided h rfl⟩

-- A word that counts more bytes than there are ends the reading, and the report does not warn of it.
theorem not_every_clean_understood : ¬∀ (m : Manifest) (tree : FileTree) (others : Encodings) (r : Report)
    (ns : List Notice) (data : Bytes), (m.validate tree others).result = (.ok r, ns) → r.warnings = [] →
      tree.read m.path = .ok data → ∃ length? d, m.framing.Divides length? data d ∧ d.left = 0 := by
  intro h
  have hv : (loose.validate (looseTree [0, 9, 0, 0, 0xc1]) .none).result =
      (.ok { manifest := loose, size := some 5 }, [.badDescriptor .record 0 9]) := by cbv
  have hr : (looseTree [0, 9, 0, 0, 0xc1]).read loose.path = .ok [0, 9, 0, 0, 0xc1] := by cbv
  obtain ⟨length?, d, hd, hz⟩ := h _ _ .none _ _ _ hv rfl hr
  have hs : Stuck recordCount [0, 9, 0, 0, 0xc1] := .inr <| .inr <| by decide
  rw [hd.unique (.records (.stuck hs))] at hz
  contradiction

end Manifest
end Copybook
