import Copybook.Proofs.Field.Canonical
import Copybook.Proofs.Session.Independence
import Copybook.Proofs.Session.Plain

/-!
The value of a record without redefinitions is as good as its bytes: a fresh record whose fields are set to the scalars
of the value, in whatever order, has the same value. The bytes need not be the same, since reading is lenient and bytes
that cannot be addressed are left as they are.
-/

namespace Copybook

open Bytes (Apart splice slice)

namespace Spot

variable {s : Spot} {codec : Codec} {page : CodePage} {chars : List Char} {original buffer b : Bytes} {v : Value}

-- What a field has been read as it is read as again once it has been written.
theorem read_again (hc : codec.Plain) (hp : CodePage.ofName? codec.page = some page) (hs : page.chars? = some chars)
    (hd : s.type.HasDigits) (hr : s.read codec original = .ok v) (hb : s.Stores codec v b)
    (hl : s.stop ≤ buffer.length) (hn : slice buffer s.start s.stop = b) : s.read codec buffer = .ok v := by
  have ⟨raw, hraw, hv⟩ := bind_eq_ok_iff.mp hr
  have ⟨hle, hraw⟩ : ¬original.length < s.stop ∧ raw = slice original s.start s.stop := by
    unfold Spot.bytes at hraw
    split at hraw <;> cases hraw
    exact ⟨‹_›, rfl⟩
  have hlen : raw.length = s.type.length := by
    rw [hraw, slice, List.length_take, List.length_drop]
    simp only [stop] at hle ⊢
    omega
  rw [read_eq hl, hn, decode, FieldType.decode_encode_decode hc hp hs hd hlen (mapError_eq_ok_iff.mp hv) hb.left]
  rfl

end Spot

namespace Layout

variable {layout : Layout}

-- Where nothing is redefined, the fields that make up the value of the record have no byte in common.
theorem IsCompiled.exports_apart (h : layout.IsCompiled) (hr : ∀ n, layout.root.Within n → n.item.redefines = none) :
    (layout.root.exports 0 []).Pairwise fun s t => Apart s.start s.stop t.start t.stop :=
  List.pairwise_map.mp <| h.tiles_apart.sublist <| layout.root.exports_sublist_tiles hr 0 []

-- The keys of a field that makes up the value of the record lead to it.
theorem fieldAt?_of_mem_exports {s : Spot} (hr : layout.root.IsSpelled) (hs : s ∈ layout.root.exports 0 []) :
    layout.fieldAt? (s.path.map Key.value) = some s := by
  have ⟨q, hq, hs⟩ := Place.stands_of_mem_exports (Place.root_stands layout) hs
  rw [Place.StandsIn, ←Place.path_of_spot? hs] at hq
  rw [fieldAt?, Place.locate_of_follow hr (Place.root_occursIn layout) hq]
  exact hs

end Layout

namespace Session

-- Sets one field after another: the session after the last one, if none of them has failed.
def setAll? (s : Session) (record : Text) : List (List Key × Value) → Option Session
  | [] => some s
  | (path, v) :: rest =>
    match s.setAt record (path.map Key.value) v with
    | (.ok _, s) => s.setAll? record rest
    | (.error _, _) => none

variable {s s' : Session} {layouts : List Layout} {record : Text} {layout : Layout} {j : Nat} {buffers : List Bytes}
  {buffer original : Bytes} {page : CodePage} {chars : List Char} {spots : List Spot}
  {leaves : List (List Key × Value)} {v : Value}

section Setting

variable (hc : layout.codec.Plain) (hp : CodePage.ofName? layout.codec.page = some page)
  (hs : page.chars? = some chars) (hd : layout.root.hasDigits)

include hc hp hs hd

-- Fields without a byte in common, set one after another to what they have been read as elsewhere, are all read as
-- that in the end, and all other bytes stay as they are.
theorem reads_of_setAll? (h : s.Reachable layouts) (hb : s.Has record layout j (buffers.set j buffer))
    (hl : List.Forall₂ (fun leaf spot => layout.fieldAt? (leaf.1.map Key.value) = some spot ∧
      spot.read layout.codec original = .ok leaf.2) leaves spots)
    (ha : spots.Pairwise fun s t => Apart s.start s.stop t.start t.stop)
    (hset : s.setAll? record leaves = some s') :
    ∃ buffer', s'.Reachable layouts ∧ s'.Has record layout j (buffers.set j buffer') ∧
      buffer'.length = buffer.length ∧
      (∀ spot ∈ spots, spot.read layout.codec buffer' = spot.read layout.codec original) ∧
      ∀ start stop, (∀ spot ∈ spots, Apart spot.start spot.stop start stop) →
        slice buffer' start stop = slice buffer start stop := by
  induction hl generalizing s buffer
  case nil =>
    cases hset
    exact ⟨buffer, h, hb, rfl, nofun, fun _ _ _ => rfl⟩
  case cons leaf spot leaves spots hleaf _ hi =>
    have ⟨path, v⟩ := leaf
    have ⟨hf, hr⟩ := hleaf
    have ⟨hspot, ha⟩ := List.pairwise_cons.mp ha
    rw [setAll?] at hset
    cases hres : s.setAt record (path.map Key.value) v
    case mk reply s₁ =>
      rw [hres] at hset
      cases reply
      case error => contradiction
      case ok =>
        have ho : (s.setAt record (path.map Key.value) v).1.isOk := by rw [hres]; rfl
        have ⟨b, he, hle⟩ := encode_of_setAt h hb hf ho
        have hst := Layout.stores_of_encode hc hp (CodePage.ne_utf16_of_chars? hs) hd hf he
        have hn := Bytes.length_splice_of_span hst.right hle
        have ⟨_, hb₁⟩ := setAt_stores h hb hf hst hle
        have h₁ := h.setAt record (path.map Key.value) v
        rw [hres] at hb₁ h₁
        have ⟨buffer', h', hb', hlen, hreads, hkeep⟩ := hi h₁ hb₁ ha hset
        refine ⟨buffer', h', hb', hlen.trans hn, ?_, fun start stop hout => ?_⟩
        · refine List.forall_mem_cons.mpr ⟨?_, hreads⟩
          -- What is set after the field does not touch it.
          have hslice : slice buffer' spot.start spot.stop = b := by
            rw [hkeep _ _ fun t ht => (hspot t ht).symm, Bytes.slice_splice_self hst.right hle]
          have hdigits := Node.hasDigits_of_field <| (Layout.within_of_fieldAt? hf).hasDigits hd
          exact (Spot.read_again hc hp hs hdigits hr hst (by omega) hslice).trans hr.symm
        · have ⟨hout, hrest⟩ := List.forall_mem_cons.mp hout
          rw [hkeep _ _ hrest, Bytes.slice_splice_of_apart hst.right hle hout]

-- A record whose fields have been set to the scalars of the value of another one has the same value.
theorem plainAt_of_setAll? (hl : layout.IsCompiled) (hspell : layout.root.IsSpelled)
    (hr : ∀ n, layout.root.Within n → n.item.redefines = none)
    (hv : Place.plain (.now layout.codec original) 0 [] layout.root = .ok v) (ho : leaves.Perm v.leaves)
    (h : s.Reachable layouts) (hb : s.Has record layout j (buffers.set j buffer))
    (hset : s.setAll? record leaves = some s') : (s'.plainAt record []).1 = .ok (.value v) := by
  have ⟨spots, hleaves, hperm⟩ := List.perm_comp_forall₂ ho (Place.leaves_of_plain hv)
  have ha : spots.Pairwise fun s t => Apart s.start s.stop t.start t.stop :=
    (hperm.pairwise_iff Apart.symm).mpr (hl.exports_apart hr)
  have hfields : List.Forall₂ (fun leaf spot => layout.fieldAt? (leaf.1.map Key.value) = some spot ∧
      spot.read layout.codec original = .ok leaf.2) leaves spots := by
    have hmem : ∀ spot ∈ spots, spot ∈ layout.root.exports 0 [] := fun _ => hperm.mem_iff.mp
    refine ((List.forall₂_and_left _ _).mpr ⟨hmem, hleaves.flip⟩).flip.imp fun leaf spot ⟨hm, hpath, hread⟩ => ?_
    refine ⟨?_, hread⟩
    have hf := Layout.fieldAt?_of_mem_exports hspell hm
    rwa [hpath] at hf
  have ⟨buffer', h', hb', _, hreads, _⟩ := reads_of_setAll? hc hp hs hd h hb hfields ha hset
  have hplain := Place.plain_of_reads hv fun spot hspot => hreads spot (hperm.mem_iff.mpr hspot)
  rw [(plainAt_eq h' hb' []).left, getD_set h' hb']
  exact congrArg (·.map Reply.value) hplain

end Setting

-- The value of a record, for a copybook that redefines nothing, whose numbers have a digit and whose code page has one
-- byte for each character: a fresh record whose fields are set to the scalars of the value, by name and by index and in
-- any order, has that value too if all of them can be set.
theorem imported_as_exported {handle : Handle} {statements : List Text} {codec : Codec} {notices : List Notice}
    {number : Nat} (h : s.Reachable layouts) (hr : s.records.lookup record = some handle)
    (hl : (Layout.ofStatements statements codec).result = (.ok handle.layout, notices))
    (hn : s.layouts[number]? = some handle.layout) (hc : handle.layout.codec.Plain)
    (hp : CodePage.ofName? handle.layout.codec.page = some page) (hs : page.chars? = some chars)
    (hd : handle.layout.root.hasDigits) (hf : ∀ n, handle.layout.root.Within n → n.item.redefines = none)
    (hv : (s.plainAt record []).1 = .ok (.value v)) (name : Text) (ho : leaves.Perm v.leaves)
    (hset : (s.stepWith .remembering (.makeRecord name number .fresh)).2.setAll? name leaves = some s') :
    (s'.plainAt name []).1 = .ok (.value v) := by
  rw [(plainAt_eq h (has_of_lookup hr) []).left, map_eq_ok_iff] at hv
  have ⟨w, hv, he⟩ := hv
  cases he
  have h' := h.step (.makeRecord name number .fresh)
  have ⟨_, _, hr'⟩ := has_fresh hn name
  have hb := has_bytes h' hr'
  exact plainAt_of_setAll? hc hp hs hd (.ofStatements hl) (Layout.isSpelled_of_ofStatements hl) hf hv ho h' hb hset

end Session

namespace Layout

-- The layout of `01 R. 05 A OCCURS 2 PIC 9. 05 PIC X. 05 B PIC S9V9 COMP-3. 05 C PIC X(2).`
def lenient : Layout where
  length := 7
  members := [.group ⟨"R".toList, 0, none, none, none⟩ 7 [
    .array 2 (.field ⟨"A".toList, 0, none, none, none⟩ (.number .zoned ⟨1, 0, false⟩)),
    .field ⟨"FILLER".toList, 2, none, none, none⟩ (.text 1 false),
    .field ⟨"B".toList, 3, none, none, none⟩ (.number .packed ⟨1, 1, true⟩),
    .field ⟨"C".toList, 5, none, none, none⟩ (.text 2 false)]]
  declarations := [
    ⟨1, "R".toList, none, none, none, none, none, none, none, "01 R".toList⟩,
    ⟨5, "A".toList, some "9".toList, some 2, none, none, some "R".toList, none, none, "05 A OCCURS 2 PIC 9".toList⟩,
    ⟨5, "FILLER".toList, some "X".toList, none, none, none, some "R".toList, none, none, "05 PIC X".toList⟩,
    ⟨5, "B".toList, some "S9V9 COMP-3".toList, none, none, none, some "R".toList, none, none,
      "05 B PIC S9V9 COMP-3".toList⟩,
    ⟨5, "C".toList, some "X(2)".toList, none, none, none, some "R".toList, none, none, "05 C PIC X(2)".toList⟩]
  codec := {}

set_option maxRecDepth 1000 in
theorem lenient_compiled : (ofStatements (lenient.declarations.map (·.line)) {}).result = (.ok lenient, []) := by
  have hd : Source.declarations (lenient.declarations.map (·.line)) = .ok lenient.declarations := by
    with_unfolding_all rfl
  rw [ofStatements, hd]
  with_unfolding_all rfl

end Layout

namespace Session

-- A blank and an overpunched digit are read as digits, a half with no sign as plus and a low value as padding; the
-- scalars are set from the last to the first.
theorem lenient_imported :
    let s := ((start [Layout.lenient]).stepWith .remembering
      (.makeRecord "r".toList 0 (.copy [0x40, 0xc3, 0xff, 0x01, 0x5f, 0xc1, 0x00]))).2
    let v : Value := .record [("R".toList, .record [
      ("A".toList, .list [.int 0, .int 3]), ("B".toList, .decimal (.finite false 15 (-1))),
      ("C".toList, .text "A".toList)])]
    let imported := (s.stepWith .remembering (.makeRecord "t".toList 0 .fresh)).2.setAll? "t".toList v.leaves.reverse
    (s.plainAt "r".toList []).1 = .ok (.value v) ∧
      imported.map (·.bytes 1) = some [0xf0, 0xf3, 0x00, 0x01, 0x5c, 0xc1, 0x40] ∧
      ∀ s', imported = some s' → (s'.plainAt "t".toList []).1 = .ok (.value v) := by
  intro s v imported
  have h : s.Reachable [Layout.lenient] := .step _ .start
  have hr : s.records.lookup "r".toList = some ⟨Layout.lenient, 0, {}⟩ := rfl
  have hd : Layout.lenient.root.hasDigits := by decide
  have hf : ∀ n, Layout.lenient.root.Within n → n.item.redefines = none := by
    simp [Layout.lenient, Layout.root, Node.item]
  have hp : CodePage.ofName? Layout.lenient.codec.page = some .cp037 := by cbv
  have hv : (s.plainAt "r".toList []).1 = .ok (.value v) := by with_unfolding_all rfl
  refine ⟨hv, by decide +kernel, fun s' hs' => ?_⟩
  exact imported_as_exported h hr Layout.lenient_compiled rfl ⟨rfl, rfl⟩ hp rfl hd hf hv "t".toList
    (List.reverse_perm _) hs'

end Session
end Copybook
