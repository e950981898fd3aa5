import Copybook.Layout.Placement
import Copybook.Proofs.Notice
import Copybook.Proofs.Source.Entry

/-!
A record is laid out by its items alone: condition names and renamings among them make no difference, as long as they can
be read.
-/

namespace Copybook
namespace Layout

open Source (EntryBody Inserted)
open Noting

variable {statements more : List Text} {entries : List Source.Entry} {codec : Codec} {layout layout' : Layout}
  {notices notices' : List Notice} {ds : List Declaration}

theorem ofStatements_of_declarations (h : Source.declarations statements = .ok ds) :
    (ofStatements statements codec).result = (ofDeclarations ds codec).result := by
  rw [ofStatements, h]
  rfl

theorem declarations_of_ofStatements (h : (ofStatements statements codec).result = (.ok layout, notices)) :
    ∃ ds, Source.declarations statements = .ok ds ∧ (ofDeclarations ds codec).result = (.ok layout, notices) := by
  obtain ⟨ds, m, hd, hl⟩ := (yields_result h).bind
  obtain ⟨hread, rfl⟩ := hd.lift
  exact ⟨ds, mapError_eq_ok_iff.mp hread, hl⟩

-- The layout is the same with entries as without them, unless one of them cannot be read.
theorem ofStatements_inserted_iff (h : Inserted entries statements more)
    (hl : (ofStatements statements codec).result = (.ok layout, notices)) :
    (ofStatements more codec).result = (.ok layout', notices') ↔
      (∀ e ∈ entries, e.IsHarmless) ∧ layout' = layout ∧ notices' = notices := by
  obtain ⟨ds, hd, hp⟩ := declarations_of_ofStatements hl
  constructor
  · intro hm
    obtain ⟨ds', hd', hp'⟩ := declarations_of_ofStatements hm
    obtain ⟨hh, rfl⟩ := (Source.declarationsFrom_inserted h hd).mp hd'
    obtain ⟨he, hn⟩ := Prod.mk.inj (hp'.symm.trans hp)
    exact ⟨hh, Except.ok.inj he, hn⟩
  · rintro ⟨hh, rfl, rfl⟩
    rw [ofStatements_of_declarations ((Source.declarationsFrom_inserted h hd).mpr ⟨hh, rfl⟩), hp]

-- The layout of `01 A PIC X.`
def switch : Layout where
  length := 1
  members := [.field ⟨"A".toList, 0, none, none, none⟩ (.text 1 false)]
  declarations := [⟨1, "A".toList, some "X".toList, none, none, none, none, none, none, "01 A PIC X".toList⟩]
  codec := {}

theorem switch_compiled : (ofStatements ["01 A PIC X".toList] {}).result = (.ok switch, []) := by
  have hd : Source.declarations ["01 A PIC X".toList] = .ok switch.declarations := by with_unfolding_all rfl
  rw [ofStatements, hd]
  with_unfolding_all rfl

-- `88 name VALUE 'first'` and what comes after that.
def condition (name first : Text) (further : List (Option Text × Source.Literal)) (named : Source.IsName name)
    (proper : name.upper ∉ Source.clauseWords)
    (through : ∀ l ∈ further, ∀ w ∈ l.1, Source.OneOf ["THRU".toList, "THROUGH".toList] w) : Source.Entry where
  level := "88".toList
  name := name
  body := .values (.unlinked "VALUE".toList (.ofContent first) (by decide)) further through
  leveled := ⟨List.all_eq_true.mp rfl, by decide, by decide⟩
  numbered := rfl
  named := named
  proper := proper

-- `88 IS-ON VALUE 'Y' THRU 'Z'`
def isOn : Source.Entry :=
  condition "IS-ON".toList "Y".toList [(some "THRU".toList, .ofContent "Z".toList)]
    ⟨by decide, List.all_eq_true.mp rfl⟩ (by decide +kernel)
    (List.forall_mem_singleton.mpr fun w hw => by
      cases hw
      decide)

-- `66 B RENAMES A`
def renamed : Source.Entry where
  level := "66".toList
  name := "B".toList
  body := .renames "RENAMES".toList "A".toList none rfl ⟨by decide, List.all_eq_true.mp rfl⟩ nofun
  leveled := ⟨List.all_eq_true.mp rfl, by decide, by decide⟩
  numbered := rfl
  named := ⟨by decide, List.all_eq_true.mp rfl⟩
  proper := by decide +kernel

theorem isOn_isHarmless : isOn.IsHarmless :=
  isOn.isHarmless_of_isQuiet (by decide) (by
    change ∀ w ∈ Source.latentWords, ∀ s ∈ ["THRU".toList, "'Z'".toList], ¬Source.Clause.Mentions w s
    decide +kernel)

theorem renamed_isHarmless : renamed.IsHarmless :=
  renamed.isHarmless_of_isQuiet (by decide) (by
    change ∀ w ∈ "VALUE".toList :: Source.latentWords, ∀ s ∈ ["RENAMES".toList, "A".toList], ¬Source.Clause.Mentions w s
    decide +kernel)

theorem switch_with_entries :
    (ofStatements ["01 A PIC X".toList] {}).result = (.ok switch, []) ∧
    (ofStatements ["01 A PIC X".toList, "88 IS-ON VALUE 'Y' THRU 'Z'".toList, "66 B RENAMES A".toList] {}).result =
      (.ok switch, []) := by
  have hon : Source.Spaced isOn.words "88 IS-ON VALUE 'Y' THRU 'Z'".toList := .join (List.cons_ne_nil _ _)
  have hre : Source.Spaced renamed.words "66 B RENAMES A".toList := .join (List.cons_ne_nil _ _)
  refine ⟨switch_compiled, (ofStatements_inserted_iff (.keep _ (.insert hon (.insert hre .nil))) switch_compiled).mpr
    ⟨?_, rfl, rfl⟩⟩
  exact List.forall_mem_cons.mpr ⟨isOn_isHarmless, List.forall_mem_singleton.mpr renamed_isHarmless⟩

-- `88 ON-INDEX VALUE 'DATA' 'INDEX'`
def onIndex : Source.Entry :=
  condition "ON-INDEX".toList "DATA".toList [(none, .ofContent "INDEX".toList)] ⟨by decide, List.all_eq_true.mp rfl⟩
    (by decide +kernel) (List.forall_mem_singleton.mpr nofun)

-- The second literal of a condition is taken for the usage of an item without a picture.
theorem not_every_entry_harmless :
    Inserted [onIndex] ["01 A PIC X".toList] ["01 A PIC X".toList, "88 ON-INDEX VALUE 'DATA' 'INDEX'".toList] ∧
    (ofStatements ["01 A PIC X".toList] {}).result = (.ok switch, []) ∧
    (ofStatements ["01 A PIC X".toList, "88 ON-INDEX VALUE 'DATA' 'INDEX'".toList] {}).result =
      (.error (.source ⟨.bareUsage, "88 ON-INDEX VALUE 'DATA' 'INDEX'".toList⟩), []) := by
  have hs : Source.Spaced onIndex.words "88 ON-INDEX VALUE 'DATA' 'INDEX'".toList := .join (List.cons_ne_nil _ _)
  refine ⟨.keep _ (.insert hs .nil), switch_compiled, ?_⟩
  have hd : Source.declarations ["01 A PIC X".toList, "88 ON-INDEX VALUE 'DATA' 'INDEX'".toList] =
      .error ⟨.bareUsage, "88 ON-INDEX VALUE 'DATA' 'INDEX'".toList⟩ := by
    with_unfolding_all rfl
  rw [ofStatements, hd]
  rfl

end Layout
end Copybook
