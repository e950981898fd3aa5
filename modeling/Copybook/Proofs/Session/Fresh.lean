import Copybook.Proofs.Layout.Initial
import Copybook.Proofs.Layout.Template
import Copybook.Proofs.Session.Independence

/-!
A new record carries the literals of its copybook: each field has its own, or its part of that of the innermost group
around it that has one, and all others are low values.
-/

namespace Copybook

open Bytes (slice)

namespace Node

theorem storage_hasDigits (n : Node) (h : n.hasDigits) : n.storage.HasDigits := by
  cases n
  case field => exact hasDigits_of_field h
  case group => trivial
  case array count element => exact storage_hasDigits element h

end Node

namespace Layout

variable {layout : Layout} {page : CodePage}

-- Literals have the bytes of their items if every digit has a byte and every number has a digit.
theorem IsCompiled.stampable (h : layout.IsCompiled) (hc : layout.codec.Plain)
    (hp : CodePage.ofName? layout.codec.page = some page) (hu : page ≠ .utf16) (hd : layout.root.hasDigits)
    (hv : ∀ r, layout.root.Within r → r.item.redefines.isSome → ∀ n, r.Within n → n.item.value = none) :
    layout.root.Stampable := by
  refine ⟨fun n hn v hi => ?_, fun r hr hs n hn => ?_⟩
  · have hn' := h.carriesLiteral hn
    have ⟨literal, hl⟩ := Option.isSome_iff_exists.mp (hn'.isSome.symm.trans (congrArg Option.isSome hi))
    have ⟨b, hb, he⟩ := hn'.encode hl
    rw [Option.some.inj (hi.symm.trans hb)]
    exact Initial.length_encode hc hp hu (n.storage_hasDigits (hn.hasDigits hd)) he
  · have he := (h.carriesLiteral (hr.trans hn)).isSome
    simpa [hv r hr hs n hn] using he

-- The layout of `01 R. 05 G OCCURS 2 VALUE 'ABCD'. 10 A PIC X(2). 10 B PIC X(2) VALUE 'Z'. 05 T PIC X.
-- 05 U REDEFINES T PIC 9.`
def valued : Layout where
  length := 9
  members := [.group ⟨"R".toList, 0, none, none, none⟩ 9 [
    .array 2 (.group ⟨"G".toList, 0, none, some "'ABCD'".toList, some [0xc1, 0xc2, 0xc3, 0xc4]⟩ 4 [
      .field ⟨"A".toList, 0, none, none, none⟩ (.text 2 false),
      .field ⟨"B".toList, 2, none, some "'Z'".toList, some [0xe9, 0x40]⟩ (.text 2 false)]),
    .field ⟨"T".toList, 8, none, none, none⟩ (.text 1 false),
    .field ⟨"U".toList, 8, some "T".toList, none, none⟩ (.number .zoned ⟨1, 0, false⟩)]]
  declarations := [
    ⟨1, "R".toList, none, none, none, none, none, none, none, "01 R".toList⟩,
    ⟨5, "G".toList, none, some 2, none, some "'ABCD'".toList, some "R".toList, none, none,
      "05 G OCCURS 2 VALUE 'ABCD'".toList⟩,
    ⟨10, "A".toList, some "X(2)".toList, none, none, none, some "G".toList, some "G".toList, none,
      "10 A PIC X(2)".toList⟩,
    ⟨10, "B".toList, some "X(2)".toList, none, none, some "'Z'".toList, some "G".toList, some "G".toList, none,
      "10 B PIC X(2) VALUE 'Z'".toList⟩,
    ⟨5, "T".toList, some "X".toList, none, none, none, some "R".toList, none, none, "05 T PIC X".toList⟩,
    ⟨5, "U".toList, some "9".toList, none, some "T".toList, none, some "R".toList, none, none,
      "05 U REDEFINES T PIC 9".toList⟩]
  codec := {}

set_option maxRecDepth 1000 in
theorem valued_isCompiled : valued.IsCompiled :=
  ⟨[], by with_unfolding_all rfl⟩

end Layout

namespace Session

variable {s : Session} {layout : Layout} {number : Nat} {page : CodePage}

-- A record that is made without data, for a copybook in whose code page every digit has a byte, whose numbers have a
-- digit and whose redefinitions have no literals: it has as many bytes as the layout, and each occurrence of a field
-- that neither redefines anything nor is part of something that does holds its literal, or its part of that of the
-- innermost group around it that has one, or low values.
theorem fresh_record (hn : s.layouts[number]? = some layout) (hl : layout.IsCompiled) (hc : layout.codec.Plain)
    (hp : CodePage.ofName? layout.codec.page = some page) (hu : page ≠ .utf16) (hd : layout.root.hasDigits)
    (hv : ∀ r, layout.root.Within r → r.item.redefines.isSome → ∀ n, r.Within n → n.item.value = none) (name : Text) :
    let outcome := s.stepWith .remembering (.makeRecord name number .fresh)
    outcome.1.isOk ∧ ∃ buffer, outcome.2.Has name layout s.buffers.length (s.buffers ++ [buffer]) ∧
      buffer.length = layout.length ∧ layout.lineages.map (·.field) = layout.tiles ∧
      ∀ l ∈ layout.lineages, l.IsIn layout.root ∧ l.Shows layout.codec (slice buffer l.start l.stop) := by
  have hs := hl.stampable hc hp hu hd hv
  simp only [stepWith, hn, makeRecord, addBuffer, addRecord]
  refine ⟨rfl, layout.template, ⟨rfl, {}, lookup_bind ..⟩, ?_, layout.root.map_lineages 0, fun l hm => ?_⟩
  · exact hl.length_template hs
  · exact ⟨layout.root.isIn_of_lineages hm, hl.shows hs hm⟩

-- The second `A` has its part of the literal of the second `G`, the second `B` its own, and `T` is a low value.
theorem valued_fresh :
    let outcome := (start [Layout.valued]).stepWith .remembering (.makeRecord "r".toList 0 .fresh)
    Layout.valued.IsCompiled ∧ Layout.valued.root.hasDigits ∧
      (∀ r, Layout.valued.root.Within r → r.item.redefines.isSome → ∀ n, r.Within n → n.item.value = none) ∧
      ∃ buffer, outcome.2.Has "r".toList Layout.valued 0 [buffer] ∧ buffer.length = 9 ∧
        (∃ b, Initial.encode "'ABCD'".toList (.text 4 false) 4 {} = .ok b ∧ slice buffer 4 6 = slice b 0 2) ∧
        Initial.encode "'Z'".toList (.text 2 false) 2 {} = .ok (slice buffer 6 8) ∧ slice buffer 8 9 = [0] := by
  have hd : Layout.valued.root.hasDigits := by decide
  have hv : ∀ r, Layout.valued.root.Within r → r.item.redefines.isSome → ∀ n, r.Within n → n.item.value = none := by
    simp [Layout.valued, Layout.root, Node.item]
  have hp : CodePage.ofName? Layout.valued.codec.page = some .cp037 := by cbv
  have hn : (start [Layout.valued]).layouts[0]? = some Layout.valued := rfl
  obtain ⟨_, buffer, hb, hl, _, h⟩ :=
    fresh_record hn Layout.valued_isCompiled ⟨rfl, rfl⟩ hp (by decide) hd hv "r".toList
  have held (i : Nat) {l : Lineage} (hi : Layout.valued.lineages[i]? = some l) :
      l.Shows {} (slice buffer l.start l.stop) :=
    (h l (List.mem_of_getElem? hi)).right
  obtain ⟨_, b, hg, he, _, _, _, ha⟩ := (held 2 rfl).around rfl _ rfl
  cases hg
  exact ⟨Layout.valued_isCompiled, hd, hv, buffer, hb, hl, ⟨b, he, ha⟩, (held 3 rfl).own _ rfl,
    (held 4 rfl).zeros rfl rfl⟩

end Session
end Copybook
