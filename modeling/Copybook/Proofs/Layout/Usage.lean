import Copybook.Proofs.Layout.Literal
import Copybook.Proofs.Source.Pictured

/-!
The field of an item that is declared with a picture and a usage. It has the type that the format stands for with that
usage, unless the reader of clauses has not heard the usage, or only a part of it.
-/

namespace Copybook

-- The kinds that say what is wrong with a copybook.
def FaultKind.isSourceFault : FaultKind → Bool
  | grammar | unsupportedFieldType | missingRedefinesTarget => true
  | _ => false

namespace Layout

open Source (Spaced OneOf storageUsages PicturedItem)
open Noting

variable {s : Text} {codec : Codec} {type : FieldType} {f : Picture.Fault}

-- A record of one field.
def ofField (d : Declaration) (type : FieldType) (codec : Codec) : Layout where
  length := type.length
  members := [.field ⟨d.name, 0, none, none, none⟩ type]
  declarations := [d]
  codec := codec

-- What a declaration of a field comes to that stands alone.
theorem ofDeclarations_field {d : Declaration} {format : Text} (hp : d.picture = some format)
    (ho : d.occurs = none) (hr : d.redefines = none) (hv : d.value = none) :
    (ofDeclarations [d] codec).result = match Picture.classify format with
      | .ok type => (.ok (ofField d type codec), [])
      | .error f => (.error (.source ⟨.ofPicture format f, d.line⟩), []) := by
  have ho' : Outline.ofDeclarations [d] = [.item d []] := by simp [Outline.ofDeclarations]
  have ht : target? [] d = pure none := by rw [target?, hr]
  have hi (type : FieldType) : initial codec d type = pure none := by rw [initial, hv]
  have hplace : place codec [] 0 (.item d []) =
      (fieldType d format >>= fun type => pure (.field ⟨d.name, 0, none, none, none⟩ type)) := by
    rw [place]
    simp only [hp, ht, pure_bind, hi, hr, hv, occurring, ho, compare, Option.map_none, Option.getD_none]
  rw [ofDeclarations, ho', placeAll, hplace, fieldType]
  cases Picture.classify format
  case error => rfl
  case ok type =>
    simp only [pure_bind, placeAll, advance, Outline.declaration, hr, Node.length, Nat.zero_add]
    rfl

end Layout

namespace Source
namespace PicturedItem

variable (d : PicturedItem) {s : Text}

def declaration (s : Text) : Declaration :=
  ⟨effectiveLevel (Text.toNat d.level), shownName d.name, some d.heardFormat, none, none, none, none, none, none, s⟩

theorem declarations_words (hs : Spaced d.words s) : declarations [s] = .ok [d.declaration s] := by
  have hskip : isSkipped (Text.toNat d.level) = false := by
    have hle := d.elementary.right
    refine Bool.eq_false_iff.mpr fun h => ?_
    simp only [isSkipped, Bool.or_eq_true, beq_iff_eq] at h
    rcases h with h | h <;> simp [h, effectiveLevel] at hle
  rw [declarations, Layout.declarationsFrom_cons (not_blank_of_spaced d.leveled hs) (d.declare_words hs) hskip d.elementary]
  rfl

-- The item is laid out with the format that is heard.
theorem layout_words (hs : Spaced d.words s) (codec : Codec) :
    (Layout.ofStatements [s] codec).result = match Picture.classify d.heardFormat with
      | .ok type => (.ok (Layout.ofField (d.declaration s) type codec), [])
      | .error f => (.error (.source ⟨.ofPicture d.heardFormat f, s⟩), []) := by
  rw [Layout.ofStatements, d.declarations_words hs]
  exact Layout.ofDeclarations_field rfl rfl rfl rfl

open Picture (classify described)

-- Only usages of numbers are heard.
theorem heard_known : ∀ w ∈ d.heard, OneOf storageUsages w := by
  intro w hw
  obtain ⟨found, hf, rfl⟩ := Option.map_eq_some_iff.mp hw
  exact Clause.search_usage?_sound d.used.isSimple.isAscii d.used.isSimple.solid hf

-- Without a format there is no type, whatever the usage.
theorem classify_missing (h : d.format = []) :
    classify d.heardFormat = .error .unknown ∧ classify (described d.format d.usage) = .error .unknown := by
  have hintroduction : Picture.IsUsage d.introduction :=
    ⟨d.isToken_introduction.nonempty, d.introduced.forall
      (fun c => by rw [@eq_toLower _ (fun c => c.isAlphanum || c == '-') (by decide +kernel) c])
      Picture.isUsage_keyword.letters⟩
  have hi : d.introduction.upper = "USAGE".toList :=
    d.introduced.upper_eq Picture.isUsage_keyword.isSimple.isAscii hintroduction.isSimple.isAscii
  refine ⟨?_, h ▸ (Picture.classify_missing d.used).left⟩
  rw [heardFormat, taken, if_pos h, hi]
  cases hw : d.heard
  case none => exact (Picture.classify_missing d.used).right.left
  case some w => exact (Picture.classify_missing (Picture.isUsage_of_storageUsage (d.heard_known w hw))).right.right

-- The usages of numbers are heard.
theorem classify_of_storageUsage (h : OneOf storageUsages d.usage) :
    classify d.heardFormat = classify (described d.format d.usage) := by
  by_cases hn : d.format = []
  case pos => rw [(d.classify_missing hn).left, (d.classify_missing hn).right]
  case neg =>
    have hw : d.heard = some d.usage := Clause.search_usage?_of_storageUsage h
    rw [heardFormat, hw, taken, if_neg hn]
    exact Picture.classify_heard d.written hn d.used

-- That numbers and text are displayed is not heard, which makes no difference to them.
theorem classify_of_display (h : Text.Spells "DISPLAY".toList d.usage) :
    classify (described d.format d.usage) = match classify d.heardFormat with
      | .ok (.text _ true) => .error .unknown
      | r => r := by
  by_cases hn : d.format = []
  case pos => rw [(d.classify_missing hn).left, (d.classify_missing hn).right]
  case neg =>
    have hw : d.heard = none := by
      have hm : ∀ w ∈ "USAGE".toList :: Clause.usageHeads, ¬Clause.Mentions w "DISPLAY".toList := by decide
      have hp := Clause.headedBy_usage?.passes fun w hw => Clause.not_mentions_spells (hm w hw) h
      rw [heard, Clause.headedBy_usage?.search_of_passes hp]
      rfl
    have ht := Picture.tidy_format d.written hn
    have hc : classify d.format.upper = classify d.format := by rw [classify, classify, ht.left, ht.right]
    rw [heardFormat, hw, taken, if_neg hn, hc]
    exact Picture.classify_described_display d.written hn d.used h

theorem classify_of_unknown (h : ¬OneOf ("DISPLAY".toList :: storageUsages) d.usage) :
    ∃ f, classify (described d.format d.usage) = .error f := by
  by_cases hn : d.format = []
  case pos => exact ⟨_, (d.classify_missing hn).right⟩
  case neg => exact Picture.classify_described_unknown d.written hn d.used h

-- Whether the usage of a field of this type has been heard, as far as it matters.
def IsHeard (type : FieldType) : Prop :=
  OneOf storageUsages d.usage ∨ Text.Spells "DISPLAY".toList d.usage ∧ ∀ n, type ≠ .text n true

theorem classify_eq_ok_iff {type : FieldType} : classify (described d.format d.usage) = .ok type ↔
    classify d.heardFormat = .ok type ∧ d.IsHeard type := by
  by_cases hs : OneOf storageUsages d.usage
  case pos => simp [IsHeard, hs, d.classify_of_storageUsage hs]
  case neg =>
    by_cases hd : Text.Spells "DISPLAY".toList d.usage
    case pos =>
      rw [d.classify_of_display hd]
      simp only [IsHeard, hs, hd, false_or, true_and]
      cases classify d.heardFormat
      case error => simp
      case ok type' =>
        rcases type' with ⟨n, _ | _⟩ | ⟨storage, shape⟩ <;> simp +contextual [eq_comm]
    case neg =>
      have hu : ¬OneOf ("DISPLAY".toList :: storageUsages) d.usage := by
        rintro ⟨w, hw, hw'⟩
        rcases List.mem_cons.mp hw with rfl | hw
        · exact hd hw'
        · exact hs ⟨w, hw, hw'⟩
      obtain ⟨f, hf⟩ := d.classify_of_unknown hu
      rw [hf]
      exact iff_of_false (by simp) fun h => not_or.mpr ⟨hs, fun h => hd h.left⟩ h.right

end PicturedItem
end Source

namespace Layout

open Source (Spaced PicturedItem)
open Noting

variable {s : Text}

theorem isSourceFault_ofPicture {format : Text} {f : Picture.Fault} :
    (SourceFault.ofPicture format f).kind.isSourceFault ↔ ∀ fault, f ≠ .digits fault := by
  cases f <;> simp [SourceFault.ofPicture, SourceFault.kind, FaultKind.isSourceFault]

-- The item is laid out as the one field of the type, or refused if there is none.
def Follows (result : Except CompileFault Layout) : Except Picture.Fault FieldType → Prop
  | .ok type => ∃ layout item, result = .ok layout ∧ layout.members = [.field item type]
  | .error _ => ∃ e, result = .error e ∧ e.kind.isSourceFault

-- The usage counts as it stands exactly if it has been heard, and if there is no type, exactly if that is not because a
-- number in the format is too long to be read.
theorem usage_kept_iff (d : PicturedItem) (hs : Spaced d.words s) (codec : Codec) :
    Follows (ofStatements [s] codec).result.1 (Picture.classify (Picture.described d.format d.usage)) ↔
      match Picture.classify d.heardFormat with
      | .ok type => d.IsHeard type
      | .error f => ∀ fault, f ≠ .digits fault := by
  rw [d.layout_words hs codec]
  cases hc : Picture.classify d.heardFormat
  case ok type =>
    constructor
    case mp =>
      intro h
      cases hd : Picture.classify (Picture.described d.format d.usage) <;> rw [hd] at h
      case error =>
        obtain ⟨e, he, -⟩ := h
        contradiction
      case ok type' =>
        obtain ⟨layout, item, he, hm⟩ := h
        obtain ⟨hc', hh⟩ := d.classify_eq_ok_iff.mp hd
        rw [hc] at hc'
        cases hc'
        exact hh
    case mpr =>
      intro h
      rw [d.classify_eq_ok_iff.mpr ⟨hc, h⟩]
      exact ⟨_, _, rfl, rfl⟩
  case error f =>
    -- Whatever stands for no type with the usage that is heard stands for none with the whole usage.
    cases hd : Picture.classify (Picture.described d.format d.usage)
    case ok type =>
      have hc' := (d.classify_eq_ok_iff.mp hd).left
      rw [hc] at hc'
      contradiction
    case error =>
      constructor
      case mp =>
        intro h
        obtain ⟨e, he, hk⟩ := h
        cases he
        exact isSourceFault_ofPicture.mp hk
      case mpr =>
        intro h
        exact ⟨_, rfl, isSourceFault_ofPicture.mpr h⟩

-- `01 TOTAL PIC S9(5) USAGE IS Comp-3`
def packedItem : PicturedItem where
  level := "01".toList
  name := "TOTAL".toList
  keyword := "PIC".toList
  format := "S9(5)".toList
  introduction := "USAGE".toList
  linking := some "IS".toList
  usage := "Comp-3".toList
  leveled := ⟨List.all_eq_true.mp rfl, by decide, by decide⟩
  elementary := by decide
  named := ⟨by decide, List.all_eq_true.mp rfl⟩
  proper := by decide +kernel
  spelled := Source.PictureClause.spelled_pic
  written := ⟨by decide, by decide⟩
  introduced := rfl
  linked _ hw := by
    cases hw
    rfl
  used := ⟨by decide, List.all_eq_true.mp rfl⟩

theorem packed_usage_kept :
    Picture.classify "S9(5) USAGE Comp-3".toList = .ok (.number .packed ⟨5, 0, true⟩) ∧
    Follows (ofStatements ["01 TOTAL PIC S9(5) USAGE IS Comp-3".toList] {}).result.1
      (.ok (.number .packed ⟨5, 0, true⟩)) := by
  have hs : Spaced packedItem.words "01 TOTAL PIC S9(5) USAGE IS Comp-3".toList := .join (List.cons_ne_nil _ _)
  have hc : Picture.classify (Picture.described packedItem.format packedItem.usage) =
      .ok (.number .packed ⟨5, 0, true⟩) := by
    decide +kernel
  obtain ⟨hheard, hkept⟩ := packedItem.classify_eq_ok_iff.mp hc
  refine ⟨hc, hc ▸ (usage_kept_iff packedItem hs {}).mpr ?_⟩
  rw [hheard]
  exact hkept

-- The usage of a floating-point number is dropped, and digits are displayed instead.
theorem not_every_usage_kept :
    Picture.classify "9(5) USAGE COMP-1".toList = .error (.usage "COMP-1".toList) ∧
    ((ofStatements ["01 A PIC 9(5) USAGE COMP-1".toList] {}).result.1.map (·.members)).toOption =
      some [.field ⟨"A".toList, 0, none, none, none⟩ (.number .zoned ⟨5, 0, false⟩)] := by
  have hd : Source.declarations ["01 A PIC 9(5) USAGE COMP-1".toList] =
      .ok [⟨1, "A".toList, some "9(5)".toList, none, none, none, none, none, none,
        "01 A PIC 9(5) USAGE COMP-1".toList⟩] := by
    with_unfolding_all rfl
  have hc : Picture.classify "9(5)".toList = .ok (.number .zoned ⟨5, 0, false⟩) := by decide +kernel
  refine ⟨by decide +kernel, ?_⟩
  rw [ofStatements, hd]
  change ((ofDeclarations _ _).result.1.map _).toOption = _
  rw [ofDeclarations_field rfl rfl rfl rfl, hc]
  rfl

end Layout
end Copybook
