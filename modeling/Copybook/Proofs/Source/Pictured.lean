import Copybook.Proofs.Picture.Usage
import Copybook.Proofs.Source.Usage

/-!
Elementary items with a usage after their picture. The picture is taken as it is, and of the usage what one of the known
usages says, wherever that is in it.
-/

namespace Copybook
namespace Source

open Clause

variable {α : Type} {s t word : Text} {heads : List Text}

namespace Clause

variable {read : Option Char → Text → Option (α × Text)}

-- A reader that takes only what has blanks in it takes nothing of a word.
theorem search_of_solid (hnil : ∀ before, read before [] = none)
    (hr : ∀ before v, (∀ c ∈ v, isBlank c = false) → read before v = none) (hs : ∀ c ∈ s, isBlank c = false)
    (before : Option Char) : search read before s = none := by
  have hp : PassesTo read s [] := passesTo_of_suffix fun u hu _ before => by
    rw [List.append_nil]
    exact hr before u fun c hc => hs c (hu.subset hc)
  have h := hp before
  rw [List.append_nil, search, hnil] at h
  exact h

theorem blanks?_of_solid (hs : ∀ c ∈ s, isBlank c = false) : blanks? s = none := by
  cases s
  case nil => rfl
  case cons c s => simp [blanks?, hs c List.mem_cons_self]

theorem value?_of_solid (before : Option Char) (hs : ∀ c ∈ s, isBlank c = false) : value? before s = none := by
  cases hb : wordBegins before
  case false =>
    rw [value?, hb]
    rfl
  case true =>
    rw [value?_of_wordBegins hb]
    cases hk : keyword? "VALUE".toList s
    case none => rfl
    case some r =>
      have hr : ∀ c ∈ (keyword? "S".toList r).getD r, isBlank c = false := by
        intro c hc
        refine hs c ((keyword?_suffix hk).subset ?_)
        cases hk' : keyword? "S".toList r <;> rw [hk'] at hc
        case none => exact hc
        case some r' => exact (keyword?_suffix hk').subset hc
      rw [Option.bind_some, blanks?_of_solid hr]
      rfl

theorem dependingOn?_of_solid (before : Option Char) (hs : ∀ c ∈ s, isBlank c = false) : dependingOn? before s = none := by
  rw [dependingOn?, phrase?_of_solid hs]
  cases wordBegins before <;> rfl

theorem occurs?_of_solid (before : Option Char) (hs : ∀ c ∈ s, isBlank c = false) : occurs? before s = none := by
  rw [occurs?, phrase?_of_solid hs]
  cases wordBegins before <;> rfl

end Clause

-- `level name PICTURE format USAGE usage`. The format may be missing.
structure PicturedItem where
  level : Text
  name : Text
  keyword : Text
  format : Text
  introduction : Text
  linking : Option Text
  usage : Text
  leveled : IsLevel level
  elementary : 1 ≤ effectiveLevel (Text.toNat level) ∧ effectiveLevel (Text.toNat level) ≤ 49
  named : IsName name
  proper : name.upper ∉ clauseWords
  spelled : OneOf ["PIC".toList, "PICTURE".toList] keyword
  written : Picture.IsWritten format
  introduced : Text.Spells "USAGE".toList introduction
  linked : ∀ w ∈ linking, Text.Spells "IS".toList w
  used : Picture.IsUsage usage

namespace PicturedItem

variable (d : PicturedItem)

-- The words before the usage.
def front : List Text :=
  d.keyword :: ([d.format].filter (!·.isEmpty) ++ d.introduction :: d.linking.toList)

def words : List Text :=
  d.level :: d.name :: (d.front ++ [d.usage])

theorem isToken_usage : IsToken d.usage :=
  .of_plain d.used.nonempty (d.used.of_code (by decide +kernel))

theorem isToken_introduction : IsToken d.introduction :=
  isToken_of_spells (rfl : arePlain ["USAGE".toList]) List.mem_cons_self d.introduced

theorem isPlain_format (h : d.format ≠ []) : IsPlain d.format :=
  isPlain_of_symbols h d.written.symbols d.written.unpointed

-- Every word before the usage is the format or a keyword.
theorem format_or_keyword : ∀ w ∈ d.front,
    w = d.format ∧ w ≠ [] ∨ OneOf ["PIC".toList, "PICTURE".toList, "USAGE".toList, "IS".toList] w := by
  intro w hw
  rcases List.mem_cons.mp hw with rfl | hw
  · exact .inr (d.spelled.mono (by decide))
  rcases List.mem_append.mp hw with hw | hw
  · obtain ⟨hw, hn⟩ := List.mem_filter.mp hw
    exact .inl ⟨List.mem_singleton.mp hw, by simpa using hn⟩
  rcases List.mem_cons.mp hw with rfl | hw
  · exact .inr ⟨_, by decide, d.introduced⟩
  · exact .inr ⟨_, by decide, d.linked w (by simpa using hw)⟩

theorem isToken_front : ∀ w ∈ d.front, IsToken w := by
  intro w hw
  rcases d.format_or_keyword w hw with ⟨rfl, hn⟩ | h
  · exact (d.isPlain_format hn).toIsToken
  · exact h.isToken rfl

theorem isToken_words : ∀ w ∈ d.front ++ [d.usage], IsToken w :=
  List.forall_mem_append.mpr ⟨d.isToken_front, List.forall_mem_singleton.mpr d.isToken_usage⟩

theorem not_mem_newline : '\n' ∉ Text.join [' '] (d.front ++ [d.usage]) := by
  intro h
  rcases Text.mem_join h with h | ⟨w, hw, h⟩
  · exact absurd h (by decide)
  · exact (d.isToken_words w hw).not_mem_newline h

-- Readers of clauses other than these find nothing before the usage, and nothing in it if they need more than a word.
theorem search_eq_none {read : Option Char → Text → Option (α × Text)} (h : HeadedBy read heads)
    (hh : heads ⊆ ["VALUE".toList, "DEPENDING".toList, "OCCURS".toList])
    (hr : ∀ before s, (∀ c ∈ s, isBlank c = false) → read before s = none) :
    search read none (Text.join [' '] (d.front ++ [d.usage])) = none := by
  have all : ∀ h ∈ ["VALUE".toList, "DEPENDING".toList, "OCCURS".toList], h ∈ clauseHeads ∧
      ∀ w ∈ ["PIC".toList, "PICTURE".toList, "USAGE".toList, "IS".toList], ¬Mentions h w := by decide +kernel
  refine h.search_concat_eq_none (fun w hw => h.passes fun v hv => ?_)
    (search_of_solid h.nil hr d.isToken_usage.solid)
  obtain ⟨hm, hk⟩ := all v (hh hv)
  rcases d.format_or_keyword w hw with ⟨rfl, hn⟩ | ⟨k, hm', hs⟩
  · exact (d.isPlain_format hn).mute v hm
  · exact not_mentions_spells (hk k hm') hs

-- What is taken for the format: without one, the word after it.
def taken : Text :=
  if d.format = [] then d.introduction else d.format

-- The words after that, except the usage.
def between : List Text :=
  if d.format = [] then d.linking.toList else d.introduction :: d.linking.toList

theorem front_eq : d.front = d.keyword :: d.taken :: d.between := by
  rw [front, taken, between]
  cases h : d.format <;> simp

theorem search_picture? : search picture? none (Text.join [' '] (d.front ++ [d.usage])) =
    some ⟨[], d.taken, Text.trail (d.between ++ [d.usage])⟩ := by
  have htaken : IsToken d.taken ∧ ∀ t, beginsBlank t → phrase? "IS".toList (d.taken ++ t) = none := by
    rw [taken]
    split
    case isTrue => exact ⟨d.isToken_introduction, fun t ht => phrase?_of_spells rfl rfl d.introduced ht⟩
    case isFalse h =>
      have hp := d.isPlain_format h
      exact ⟨hp.toIsToken, fun t ht => phrase?_eq_none (not_isBlank_of_all rfl) hp.solid hp.unlinked ht⟩
  have ht := beginsBlank_trail (d.between ++ [d.usage])
  have hlinked : ∀ w ∈ (none : Option Text), Text.Spells "IS".toList w := by simp
  have hr := @picture?_keyword (Text.trail (d.between ++ [d.usage])) none d.keyword d.taken none rfl ht d.spelled hlinked
    htaken.left.toIsWord (htaken.right _ ht)
  have he : Text.join [' '] (d.front ++ [d.usage]) =
      d.keyword ++ ' ' :: (d.taken ++ Text.trail (d.between ++ [d.usage])) := by
    rw [front_eq, List.cons_append, List.cons_append, Text.join_cons, Text.trail_cons]
  rw [he]
  exact search_of_read hr

-- The usage that is found.
def heard : Option Text :=
  (search usage? none d.usage).map (·.item)

theorem search_usage? : (search usage? none (Text.trail (d.between ++ [d.usage]))).map (·.item) = d.heard := by
  have hsolid : ∀ c ∈ d.usage ++ [], isBlank c = false := by simpa using d.isToken_usage.solid
  have hm (v : Text) (hv : v <:+ d.usage) : phrase? "USAGE".toList (v ++ []) = none :=
    phrase?_of_solid fun c hc => d.isToken_usage.solid c (hv.subset (by simpa using hc))
  have hi := d.isToken_usage.toIsWord
  have hn (b : Option Char) : search usage? b [] = none := headedBy_usage?.search_nil b
  have afterSpace (s : Text) (before : Option Char) : wordBegins (latest before (s ++ [' '])) := by
    rw [latest_append]
    exact (by decide : wordBegins (some ' '))
  rw [between]
  split
  case isTrue =>
    rw [Text.trail_append, Text.trail_cons, show Text.trail d.linking.toList ++ ' ' :: (d.usage ++ Text.trail []) =
      Text.trail d.linking.toList ++ [' '] ++ (d.usage ++ []) by simp [Text.trail], passesTo_linking d.linked,
      Option.map_map]
    exact search_usage?_item hm hi (afterSpace _ none) rfl hn
  case isFalse =>
    rw [List.cons_append, Text.trail_cons, Text.trail_append, Text.trail_cons,
      show ' ' :: (d.introduction ++ (Text.trail d.linking.toList ++ ' ' :: (d.usage ++ Text.trail []))) =
        [' '] ++ (d.introduction ++ (Text.trail d.linking.toList ++ ' ' :: (d.usage ++ []))) by simp [Text.trail],
      headedBy_usage?.passes_space, Option.map_map]
    exact search_usage?_keyword hm hi (afterSpace [] none) rfl d.introduced d.linked (phrase?_of_solid hsolid) hn

-- The format in capitals, with the usage that is found.
def heardFormat : Text :=
  match d.heard with
  | some word => d.taken.upper ++ ' ' :: word.upper
  | none => d.taken.upper

theorem pictureIn_words : pictureIn (Text.join [' '] (d.front ++ [d.usage])) = .ok (some d.heardFormat) := by
  rw [pictureIn, d.search_picture?]
  simp only [Found.others, List.nil_append, heardFormat, ←d.search_usage?]
  cases search usage? none (Text.trail (d.between ++ [d.usage])) <;> rfl

theorem clauses_words : clauses (Text.join [' '] (d.front ++ [d.usage])) = .ok ⟨none, none, none, some d.heardFormat⟩ := by
  have hr : redefinesIn (Text.join [' '] (d.front ++ [d.usage])) = (none, Text.join [' '] (d.front ++ [d.usage])) := by
    obtain ⟨w, hw, hs⟩ := d.spelled
    have hk : keyword? "REDEFINES".toList (Text.join [' '] (d.front ++ [d.usage])) = none := by
      rw [front, List.cons_append, Text.join_cons]
      exact keyword?_of_spells (not_isBlank_of_all rfl)
        ((by decide : ∀ w ∈ ["PIC".toList, "PICTURE".toList], (keyword? "REDEFINES".toList w).isNone) w hw) hs
        (beginsBlank_trail _)
    rw [redefinesIn, redefines?, phrase?_of_keyword? hk]
    rfl
  have hv := d.search_eq_none headedBy_value? (by decide) fun _ _ => value?_of_solid _
  have hd := d.search_eq_none headedBy_dependingOn? (by decide) fun _ _ => dependingOn?_of_solid _
  have ho := d.search_eq_none headedBy_occurs? (by decide) fun _ _ => occurs?_of_solid _
  rw [clauses, hr]
  simp only [valueIn, hv]
  rw [occursIn, hd, ho]
  change (pictureIn _ >>= _) = _
  rw [d.pictureIn_words]
  rfl

theorem declare_words (hs : Spaced d.words s) : declare s =
    .ok (Text.toNat d.level, shownName d.name, ⟨none, none, none, some d.heardFormat⟩) := by
  rw [declare_spaced d.leveled d.named d.proper (fun w hw => (d.isToken_words w hw).isPiece) hs,
    if_neg d.not_mem_newline, d.clauses_words]
  rfl

end PicturedItem

end Source
end Copybook
