import Copybook.Manifest.Extraction
import Copybook.Proofs.Json.Line
import Copybook.Proofs.Layout.Placement
import Copybook.Proofs.Manifest.Validation

/-!
What is extracted from a dataset. The records are those that the report on it counts, each filled up or cut to the
length of the layout and on a line of its own, although they are read a second time with another length and another
limit: a limit of no records is none for the report.
-/

namespace Copybook

open Framing Noting Reading

namespace Decimal

-- The coefficient without the zeros it ends with, with these zeros again.
theorem reduce_spec (c : Nat) (e : Int) :
    e ≤ (reduce c e).2 ∧ (reduce c e).1 * 10 ^ ((reduce c e).2 - e).toNat = c := by
  fun_induction reduce c e
  case case1 c e h hi =>
    obtain ⟨hl, hc⟩ := hi
    have hn : ((reduce (c / 10) (e + 1)).2 - e).toNat = ((reduce (c / 10) (e + 1)).2 - (e + 1)).toNat + 1 := by omega
    refine ⟨by omega, ?_⟩
    rw [hn, Nat.pow_succ, ←Nat.mul_assoc, hc]
    omega
  case case2 => simp

theorem reduce_inj {c d : Nat} {e : Int} (h : reduce c e = reduce d e) : c = d := by
  rw [←(reduce_spec c e).right, ←(reduce_spec d e).right, h]

theorem eq_of_same_ofInt {i : Int} {n : Nat} (h : (ofInt i).same (ofInt n)) : i = n := by
  simp only [ofInt, same] at h
  split at h
  case isTrue =>
    have : i.natAbs = (n : Int).natAbs := by simpa using h
    omega
  case isFalse hz =>
    simp only [Bool.and_eq_true, beq_iff_eq, decide_eq_decide] at h
    have := reduce_inj h.right
    omega

end Decimal

namespace Reading

variable (n : Nat) (rs : List Reading)

theorem frames_upTo : frames (upTo n rs) = (frames rs).take n := by
  fun_induction upTo n rs
  case case1 => simp [frames]
  case case2 hi => exact hi
  case case3 => simp [frames]
  case case4 hi => simpa using hi

theorem frames_fit : frames (rs.map (fit n)) = (frames rs).map (Frame.fit n) := by
  induction rs
  case nil => rfl
  case cons r rs hi =>
    cases r
    case frame f => exact congrArg (f.fit n :: ·) hi
    case notice => exact hi

end Reading

namespace Manifest

variable {m : Manifest} {tree : FileTree} {others : Encodings} {folder copybook : Location} {x : Extraction}
variable {layout : Layout} {ns ns' : List Notice} {rs : List Reading} {vs : List Value}

-- An extraction is made of a dataset with a copybook and without warnings.
theorem extract_cases (h : (m.extract tree others folder).result = (.ok x, ns)) :
    ∃ copybook before after, m.copybook = some copybook ∧ (m.validate tree others).result = (.ok x.report, before) ∧
      x.report.warnings = [] ∧ (m.decode tree others copybook).Yields before x.records after ∧
      Export.lines x.records = .ok x.lines := by
  unfold extract at h
  split at h
  case _ => exact absurd (yields_result h) (not_yields_throw _)
  case _ copybook hc =>
    have ⟨report, before, hv, h⟩ := (yields_result h).bind
    by_cases hw : report.warnings.isEmpty
    case neg =>
      simp only [hw, Bool.not_false, if_true] at h
      have ⟨_, _, ht, _⟩ := h.bind
      exact absurd ht (not_yields_throw _)
    case pos =>
      simp only [hw, Bool.not_true, Bool.false_eq_true, if_false] at h
      have ⟨vs, after, hd, h⟩ := h.bind
      have ⟨_, _, _, h⟩ := h.bind
      have ⟨lines, _, hl, h⟩ := h.bind
      have ⟨_, _, _, h⟩ := h.bind
      have ⟨_, _, _, h⟩ := h.bind
      cases h.pure.left
      exact ⟨copybook, before, after, hc, hv.mapFault, List.isEmpty_iff.mp hw, hd.mapFault,
        mapError_eq_ok_iff.mp hl.lift.left⟩

-- The records of a dataset are decoded with the layout of its copybook, as they come up with its length.
theorem decode_cases (h : (m.decode tree others copybook).Yields ns vs ns') (hc : m.copybook = some copybook) :
    ∃ layout data rs checks before, m.layout? tree others = some layout ∧ tree.read m.path = .ok data ∧
      m.framing.read (some layout.length) data = .ok rs ∧ m.checkSettings = .ok checks ∧
      (values layout (checks.get "max_records") (rs.map (fit layout.length))).Yields before vs ns' := by
  obtain ⟨source, _, hy, h⟩ := h.bind
  have hs := mapError_eq_ok_iff.mp hy.lift.left
  obtain ⟨layout, _, hy, h⟩ := h.bind
  have hl := (Layout.compile_steady (m.codec others) source).of_yields hy.mapFault
  obtain ⟨data, _, hy, h⟩ := h.bind
  have hd := mapError_eq_ok_iff.mp hy.lift.left
  obtain ⟨fitted, _, hy, h⟩ := h.bind
  obtain ⟨rs, hr, he⟩ := bind_eq_ok_iff.mp <| mapError_eq_ok_iff.mp hy.lift.left
  cases he
  rw [Dataset.read, ofName?_name] at hr
  obtain ⟨checks, before, hy, h⟩ := h.bind
  exact ⟨layout, data, rs, checks, before, layout?_eq_some_iff.mpr ⟨copybook, hc, source, hs, hl⟩, hd, hr,
    hy.lift.left, h⟩

-- The records up to the limit are decoded, one by one.
theorem values_yields {limit? : Option Int}
    (h : (values layout (limit?.elim .null .int) (rs.map (fit layout.length))).Yields ns vs ns') :
    List.Forall₂ (fun f v => layout.value (Bytes.fit layout.length f.body) = .ok v)
      (limit?.elim (frames rs) fun n => (frames rs).take n.toNat) vs := by
  have decoded {rs' : List Reading} {fs : List Frame} {ns : List Notice}
      (hf : frames rs' = fs.map (Frame.fit layout.length))
      (h : (traverse (fun f => (layout.value f.body).mapError ManifestFault.access) rs').Yields ns vs ns') :
      List.Forall₂ (fun f v => layout.value (Bytes.fit layout.length f.body) = .ok v) fs vs := by
    have ⟨hv, _⟩ := traverse_yields h
    rw [hf, List.forall₂_map_left_iff] at hv
    exact hv.imp fun f v hd => mapError_eq_ok_iff.mp hd
  cases limit?
  case none => exact decoded (frames_fit _ _) h
  case some n =>
    have ⟨i, _, hy, h⟩ := h.bind
    cases hy.lift.left
    refine decoded ?_ h
    rw [frames_upTo, frames_fit]
    exact List.map_take.symm

theorem exact_of_rows {α : Type} {body : α → Bytes} {as : List α}
    (h : List.Forall₂ (fun a v => layout.value (body a) = .ok v) as vs) : ∀ v ∈ vs, v.Exact := by
  induction h
  case nil => exact nofun
  case cons hv _ hi => exact List.forall_mem_cons.mpr ⟨Layout.exact_of_value hv, hi⟩

-- The length that is given for the records is the one of the layout, if that is nothing to warn of.
theorem eq_of_not_differs {n : Int} (hd : differs m.length layout.length = false)
    (hl : lengthOf (m.recordLength (some layout)) = .ok n) : n = layout.length := by
  unfold recordLength at hl
  split at hl
  case isFalse => exact (Except.ok.inj hl).symm
  case isTrue hs =>
    unfold lengthOf at hl
    split at hl
    case _ b hb =>
      rw [hb] at hd
      cases hl
      exact Decimal.eq_of_same_ofInt (by simpa [differs, Value.number?] using hd)
    case _ i hi =>
      rw [hi] at hd
      cases hl
      exact Decimal.eq_of_same_ofInt (by simpa [differs, Value.number?] using hd)
    case _ => split at hl <;> contradiction
    case _ => contradiction

-- The report reads the dataset with the length of the layout, as far as any length is needed.
theorem read_eq {data : Bytes} (hf : m.Fits tree others (some layout)) (hp : m.Passes tree (some layout) data rs) :
    m.framing.read (some layout.length) data = .ok rs := by
  have ⟨length?, hr, hl⟩ := readings_cases hp.readings
  cases hm : m.framing <;> rw [hm] at hr
  case fixed =>
    obtain ⟨n, hn, rfl⟩ := hl hm
    rwa [eq_of_not_differs (hf.agrees _ rfl) hn] at hr
  all_goals exact hr

-- A limit, if it is one for the report, is not exceeded.
theorem take_of_allowed {data : Bytes} {checks : Settings} {n : Int} {l : Option Layout}
    (hp : m.Passes tree l data rs) (hc : m.checkSettings = .ok checks) (hm : checks.get "max_records" = .int n)
    (hn : n ≠ 0) : (frames rs).take n.toNat = frames rs := by
  have ⟨checks', limit?, hc', hl, ha⟩ := hp.allowed
  cases hc.symm.trans hc'
  have hs : (Value.int n).isSet := bne_iff_ne.mpr hn
  simp only [limit, hm, hs, if_true] at hl
  cases hl
  have := ha n rfl
  exact List.take_of_length_le (by omega)

-- What is extracted from a dataset are the records that the report counts, each filled up or cut to the length of the
-- layout and written on a line of its own. Only if the manifest allows no records at all, there are none, though the
-- report counts all.
theorem extracted_as_counted {checks : Settings} {limit? : Option Int}
    (h : (m.extract tree others folder).result = (.ok x, ns)) (hc : m.checkSettings = .ok checks)
    (hm : checks.get "max_records" = limit?.elim .null .int) :
    (m.validate tree others).result.1 = .ok x.report ∧ ∃ layout data rs, m.layout? tree others = some layout ∧
      tree.read m.path = .ok data ∧ m.readings (m.recordLength (some layout)) data = .ok rs ∧
      x.report.records = (frames rs).length ∧
      x.records.length = (if limit? = some 0 then 0 else x.report.records) ∧
      List.Forall₂ (fun f v => layout.value (Bytes.fit layout.length f.body) = .ok v)
        (if limit? = some 0 then [] else frames rs) x.records ∧
      ∃ texts, x.lines = Text.unlines texts ∧
        List.Forall₂ (fun v s => Json.write .compact v = some s ∧ Text.Unbroken s) x.records texts := by
  have ⟨copybook, before, _, hcopy, hv, hw, hd, hlines⟩ := extract_cases h
  have ⟨l, data, rs, hf, hp, _, hr, _⟩ := validate_clean hv hw
  have ⟨layout, data', rs', checks', _, hl, hd', hr', hc', hvs⟩ := decode_cases hd hcopy
  obtain rfl : l = some layout := hf.eq.trans hl
  cases hp.present.symm.trans hd'
  cases (read_eq hf hp).symm.trans hr'
  cases hc.symm.trans hc'
  rw [hm] at hvs
  have hrows : List.Forall₂ (fun f v => layout.value (Bytes.fit layout.length f.body) = .ok v)
      (if limit? = some 0 then [] else frames rs) x.records := by
    have hrows := values_yields hvs
    cases limit?
    case none => simpa using hrows
    case some n =>
      by_cases hz : n = 0
      case pos => simpa [hz] using hrows
      case neg => simpa [hz, take_of_allowed hp hc hm hz] using hrows
  have ⟨texts, ht, hs⟩ := Export.lines_eq_ok_iff.mp hlines
  refine ⟨congrArg Prod.fst hv, layout, data, rs, hl, hd', hp.readings, hr, ?_, hrows, texts, hs, ?_⟩
  · rw [←hrows.length_eq, hr]
    split <;> rfl
  · refine ((List.forall₂_and_left _ _).mpr ⟨exact_of_rows hrows, ht⟩).imp fun v s h => ⟨h.right, ?_⟩
    exact Json.unbroken_writeAt rfl 0 v h.left h.right

-- Records with descriptor words, the first one longer than the layout, and so many of them at most.
def sized (limit : Int) : Manifest :=
  { loose with
    copybook := some (Location.ofText "d.cpy".toList), checks := .record [("max_records".toList, .int limit)] }

def sizedTree : FileTree :=
  .ofFiles [(["d.bin".toList], [0, 6, 0, 0, 0xc1, 0xc2, 0, 5, 0, 0, 0xc3]),
    (["d.cpy".toList], Utf8.encode "01 A PIC X.".toList)]

def sizedFolder : Location :=
  .ofText "out".toList

theorem sized_extracted : ∃ x ns, ((sized 5).extract sizedTree .none sizedFolder).result = (.ok x, ns) ∧
    (sized 5).checkSettings = .ok [("max_records".toList, .int 5)] ∧
    Settings.get [("max_records".toList, .int 5)] "max_records" = (some 5).elim .null .int ∧
    ((sized 5).validate sizedTree .none).result.1 = .ok x.report ∧ ∃ layout data rs,
      (sized 5).layout? sizedTree .none = some layout ∧
      sizedTree.read (sized 5).path = .ok data ∧
      (sized 5).readings ((sized 5).recordLength (some layout)) data = .ok rs ∧ x.report.records = (frames rs).length ∧
      x.records.length = x.report.records ∧
      List.Forall₂ (fun f v => layout.value (Bytes.fit layout.length f.body) = .ok v) (frames rs) x.records ∧
      ∃ texts, x.lines = Text.unlines texts ∧
        List.Forall₂ (fun v s => Json.write .compact v = some s ∧ Text.Unbroken s) x.records texts := by
  have hx : (((sized 5).extract sizedTree .none sizedFolder).result.1.toOption.map fun x =>
      x.records.length) = some 2 := by decide +kernel
  have ⟨x, hx, _⟩ := Option.map_eq_some_iff.mp hx
  have h : ((sized 5).extract sizedTree .none sizedFolder).result = (.ok x, _) :=
    Prod.ext (toOption_eq_some_iff.mp hx) rfl
  have hm : Settings.get [("max_records".toList, .int 5)] "max_records" = (some 5).elim .null .int := rfl
  exact ⟨x, _, h, rfl, hm, extracted_as_counted h rfl hm⟩

-- Where no records are allowed the report counts all, and there are none.
theorem not_every_count_extracted : ¬∀ (m : Manifest) (tree : FileTree) (others : Encodings) (folder : Location)
    (x : Extraction) (ns : List Notice), (m.extract tree others folder).result = (.ok x, ns) →
      x.records.length = x.report.records := by
  intro h
  have hx : (((sized 0).extract sizedTree .none sizedFolder).result.1.toOption.map fun x =>
      (x.records.length, x.report.records)) = some (0, 2) := by decide +kernel
  have ⟨x, hx, hc⟩ := Option.map_eq_some_iff.mp hx
  have := h _ _ .none _ x _ (Prod.ext (toOption_eq_some_iff.mp hx) rfl)
  rw [(Prod.mk.inj hc).left, (Prod.mk.inj hc).right] at this
  contradiction

end Manifest
end Copybook
