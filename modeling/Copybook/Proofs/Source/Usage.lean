import Copybook.Proofs.Source.Taking

/-!
The usage that is found in a clause which names one: nothing that stands before it or after it makes a difference.
-/

namespace Copybook
namespace Source

variable {s t word : Text} {before : Option Char}

open Clause

namespace Clause

theorem computational?_append (ht : beginsBlank t) (s : Text) :
    computational? (s ++ t) = (computational? s).map (· ++ t) := by
  rw [computational?, computational?, keyword?_append (not_isBlank_of_all rfl) ht]
  cases keyword? "COMP".toList s
  case none => rfl
  case some r =>
    simp only [Option.map_some, Option.bind_eq_bind, Option.bind_some,
      keyword?_append (not_isBlank_of_all (rfl : "UTATIONAL".toList.all (!isBlank ·))) ht]
    cases keyword? "UTATIONAL".toList r <;> rfl

theorem skipVariant_cons_cons (variants : List Char) (c d : Char) (s : Text) :
    skipVariant variants (c :: d :: s) = if c == '-' && variants.contains d then s else c :: d :: s := by
  by_cases hc : c = '-'
  case pos =>
    subst hc
    rfl
  case neg =>
    rw [beq_false_of_ne hc, Bool.false_and, if_neg Bool.false_ne_true]
    unfold skipVariant
    split <;> simp_all

theorem skipVariant_singleton (variants : List Char) (c : Char) : skipVariant variants [c] = [c] := by
  unfold skipVariant
  split <;> simp_all

theorem taken_append_append (s r t : Text) : taken (s ++ t) (r ++ t) = taken s r := by
  rw [taken, taken, List.length_append, List.length_append, Nat.add_sub_add_right,
    List.take_append_of_le_length (Nat.sub_le _ _)]

theorem skipVariant_append {variants : List Char} (hv : variants.all (!isBlank ·)) (ht : beginsBlank t) (s : Text) :
    skipVariant variants (s ++ t) = skipVariant variants s ++ t := by
  have hblank {c : Char} {u : Text} (he : t = c :: u) : isBlank c := by
    simpa [he, beginsBlank] using ht
  rcases s with _ | ⟨c, _ | ⟨d, s⟩⟩
  · rcases t with _ | ⟨c, _ | ⟨d, t⟩⟩
    · rfl
    · exact skipVariant_singleton variants c
    · have hc : (c == '-') = false := beq_false_of_ne fun he => absurd (he ▸ hblank rfl) (by decide)
      rw [List.nil_append, skipVariant_cons_cons, hc]
      rfl
  · rcases t with _ | ⟨d, t⟩
    · rw [List.append_nil, List.append_nil]
    · have hm : variants.contains d = false := by
        refine Bool.eq_false_iff.mpr fun hm => ?_
        exact absurd (hblank rfl) (by simpa using List.all_eq_true.mp hv d (by simpa using hm))
      rw [skipVariant_singleton, List.singleton_append, skipVariant_cons_cons, hm, Bool.and_false]
      rfl
  · rw [List.cons_append, List.cons_append, skipVariant_cons_cons, skipVariant_cons_cons]
    split <;> rfl

theorem skipVariant_toLower (s : Text) : skipVariant ['3', '4', '5'] (s.map Char.toLower) =
    (skipVariant ['3', '4', '5'] s).map Char.toLower := by
  rcases s with _ | ⟨c, _ | ⟨d, s⟩⟩
  · rfl
  · rw [List.map_singleton, skipVariant_singleton, skipVariant_singleton, List.map_singleton]
  · have hc : (c.toLower == '-') = (c == '-') := @eq_toLower _ (· == '-') (by decide +kernel) c
    have hd : ['3', '4', '5'].contains d.toLower = ['3', '4', '5'].contains d :=
      @eq_toLower _ (['3', '4', '5'].contains ·) (by decide +kernel) d
    rw [List.map_cons, List.map_cons, skipVariant_cons_cons, skipVariant_cons_cons, hc, hd]
    split <;> rfl

-- What follows the word of a usage.
def usageEnd? (s : Text) : Option Text :=
  ((computational? s).map (skipVariant ['3', '4', '5'])) <|> keyword? "BINARY".toList s <|>
    keyword? "PACKED-DECIMAL".toList s

theorem usageWord?_eq (s : Text) : usageWord? s =
    (usageEnd? s).bind fun rest => if rest.head?.all isBlank then some (taken s rest, rest) else none :=
  rfl

theorem usageEnd?_append (ht : beginsBlank t) (s : Text) : usageEnd? (s ++ t) = (usageEnd? s).map (· ++ t) := by
  rw [usageEnd?, usageEnd?, computational?_append ht, keyword?_append (not_isBlank_of_all rfl) ht,
    keyword?_append (not_isBlank_of_all rfl) ht]
  cases computational? s
  case none =>
    cases keyword? "BINARY".toList s <;> rfl
  case some r => exact congrArg some (skipVariant_append rfl ht r)

theorem usageEnd?_toLower (s : Text) : usageEnd? (s.map Char.toLower) = (usageEnd? s).map (List.map Char.toLower) := by
  have hc : computational? (s.map Char.toLower) = (computational? s).map (List.map Char.toLower) := by
    rw [computational?, computational?, keyword?_toLower]
    cases keyword? "COMP".toList s
    case none => rfl
    case some r =>
      simp only [Option.map_some, Option.bind_eq_bind, Option.bind_some, keyword?_toLower]
      cases keyword? "UTATIONAL".toList r <;> rfl
  rw [usageEnd?, usageEnd?, hc, keyword?_toLower, keyword?_toLower]
  cases computational? s
  case none => cases keyword? "BINARY".toList s <;> rfl
  case some r => exact congrArg some (skipVariant_toLower r)

theorem usageWord?_append (ht : beginsBlank t) (s : Text) :
    usageWord? (s ++ t) = (usageWord? s).map fun (item, rest) => (item, rest ++ t) := by
  have hall (r : Text) : (r ++ t).head?.all isBlank = r.head?.all isBlank := by
    cases r
    case nil => exact ht
    case cons => rfl
  rw [usageWord?_eq, usageWord?_eq, usageEnd?_append ht]
  cases h : usageEnd? s
  case none => rfl
  case some r =>
    simp only [Option.map_some, Option.bind_some, hall, taken_append_append]
    split <;> rfl

-- What follows `-1` or `-2`.
def floating? : Text → Option Text
  | '-' :: d :: s => if d = '1' ∨ d = '2' then some s else none
  | _ => none

theorem floating?_of_ne (h : s.head? ≠ some '-') : floating? s = none := by
  unfold floating?
  split
  · exact absurd rfl h
  · rfl

theorem floating?_append (ht : beginsBlank t) (s : Text) : floating? (s ++ t) = (floating? s).map (· ++ t) := by
  have hblank {c : Char} {u : Text} (he : t = c :: u) : isBlank c := by
    simpa [he, beginsBlank] using ht
  cases s
  case nil =>
    refine floating?_of_ne fun h => ?_
    obtain ⟨u, hu⟩ := List.head?_eq_some_iff.mp h
    exact absurd (hblank hu) (by decide)
  case cons c s =>
    by_cases hc : c = '-'
    case neg => rw [floating?_of_ne (by simpa using hc), floating?_of_ne (by simpa using hc), Option.map_none]
    case pos =>
      subst hc
      cases s
      case nil =>
        cases t
        case nil => rfl
        case cons c t =>
          have hd : ¬(c = '1' ∨ c = '2') := by
            rintro (rfl | rfl) <;> exact absurd (hblank rfl) (by decide)
          change (if c = '1' ∨ c = '2' then some t else none) = none
          rw [if_neg hd]
      case cons d s =>
        change (if d = '1' ∨ d = '2' then some (s ++ t) else none) =
          (if d = '1' ∨ d = '2' then some s else none).map (· ++ t)
        split <;> rfl

-- What follows the word of a usage that takes no picture.
def bareUsageEnd? (s : Text) : Option Text :=
  (computational? s).bind floating? <|> keyword? "POINTER".toList s <|> keyword? "INDEX".toList s

theorem bareUsageEnd?_append (ht : beginsBlank t) (s : Text) :
    bareUsageEnd? (s ++ t) = (bareUsageEnd? s).map (· ++ t) := by
  rw [bareUsageEnd?, bareUsageEnd?, computational?_append ht, keyword?_append (not_isBlank_of_all rfl) ht,
    keyword?_append (not_isBlank_of_all rfl) ht]
  have hc : ((computational? s).map (· ++ t)).bind floating? = ((computational? s).bind floating?).map (· ++ t) := by
    cases computational? s
    case none => rfl
    case some r => exact floating?_append ht r
  rw [hc]
  cases (computational? s).bind floating?
  case none => cases keyword? "POINTER".toList s <;> rfl
  case some => rfl

theorem bareUsage?_eq (s : Text) : bareUsage? before s =
    if before.any fun c => isWordChar c || c == '-' then none
    else (bareUsageEnd? s).bind fun rest =>
      if rest.head?.any fun c => isWordChar c || c == '-' then none else some ((), rest) := by
  rw [bareUsage?]
  cases before.any fun c => isWordChar c || c == '-' <;> rfl

theorem bareUsage?_append (ht : beginsBlank t) (s : Text) :
    bareUsage? before (s ++ t) = (bareUsage? before s).map fun (item, rest) => (item, rest ++ t) := by
  have hany (r : Text) : (r ++ t).head?.any (fun c => isWordChar c || c == '-') =
      r.head?.any fun c => isWordChar c || c == '-' := by
    cases r
    case nil =>
      cases t
      case nil => rfl
      case cons c t =>
        have hc : isBlank c := by simpa [beginsBlank] using ht
        have hn : c ≠ '-' := fun he => absurd (he ▸ hc) (by decide)
        simp [isWordChar_of_isBlank hc, hn]
    case cons => rfl
  rw [bareUsage?_eq, bareUsage?_eq, bareUsageEnd?_append ht]
  split
  case isTrue => rfl
  case isFalse =>
    cases bareUsageEnd? s
    case none => rfl
    case some r =>
      simp only [Option.map_some, Option.bind_some, hany]
      split <;> rfl

-- What follows a text makes no difference to what is found in it, if it makes none to the reader at any place there.
theorem search_append_item {α : Type} {read : Option Char → Text → Option (α × Text)} (hnil : ∀ b, read b [] = none)
    (ht : ∀ b, search read b t = none) (before : Option Char)
    (hs : ∀ u, u <:+ s → ∀ b, read b (u ++ t) = (read b u).map fun (item, rest) => (item, rest ++ t)) :
    (search read before (s ++ t)).map (·.item) = (search read before s).map (·.item) := by
  induction s generalizing before
  case nil => simp [search, ht, hnil]
  case cons c s hi =>
    rw [List.cons_append, search, search, ←List.cons_append, hs _ List.suffix_rfl]
    cases read before (c :: s)
    case some => rfl
    case none =>
      have hi := hi (some c) fun u hu => hs u (hu.trans (List.suffix_cons c s))
      simpa [Function.comp_def] using hi

theorem search_usage?_congr {before before' : Option Char} (h : wordBegins before = wordBegins before') (s : Text) :
    search usage? before s = search usage? before' s := by
  have hu : usage? before = usage? before' := by
    funext s
    simp only [usage?, h]
  cases s <;> rw [search, search, hu]

-- A phrase ends with blanks.
theorem phrase?_of_solid (hs : ∀ c ∈ s, isBlank c = false) : phrase? word s = none := by
  rw [phrase?]
  cases h : keyword? word s
  case none => rfl
  case some r =>
    cases r
    case nil => rfl
    case cons c r =>
      have hc : isBlank c = false := hs c ((keyword?_suffix h).subset List.mem_cons_self)
      simp [blanks?, hc]

theorem usage?_of_phrase? (hm : phrase? "USAGE".toList s = none) (before : Option Char) :
    usage? before s = if wordBegins before then usageWord? s else none := by
  cases hb : wordBegins before
  case false =>
    rw [usage?, hb]
    rfl
  case true =>
    rw [usage?_of_wordBegins hb, hm]
    rfl

-- A usage that a word may name, after the keyword and what may link the two.
section Keyword

variable {item keyword : Text} {linking : Option Text} (hm : ∀ v, v <:+ item → phrase? "USAGE".toList (v ++ t) = none)
  (hi : IsWord item) (hb : wordBegins before) (ht : beginsBlank t)

include hm hi hb ht

-- What is found in the word does not depend on what stands around it.
theorem search_usage?_item (hn : ∀ b, search usage? b t = none) :
    (search usage? before (item ++ t)).map (·.item) = (search usage? none item).map (·.item) := by
  rw [search_append_item headedBy_usage?.nil hn, search_usage?_congr (show wordBegins before = wordBegins none from hb)]
  intro v hv b
  rw [usage?_of_phrase? (phrase?_of_solid fun c hc => hi.solid c (hv.subset hc)), usage?_of_phrase? (hm v hv)]
  split
  · exact usageWord?_append ht v
  · rfl

variable (hk : Text.Spells "USAGE".toList keyword) (hl : ∀ w ∈ linking, Text.Spells "IS".toList w)
  (hs : phrase? "IS".toList (item ++ t) = none)

include hk hl hs

omit hm ht in
theorem usage?_keyword :
    usage? before (keyword ++ (Text.trail linking.toList ++ ' ' :: (item ++ t))) = usageWord? (item ++ t) := by
  have hr : ∃ r, phrase? "USAGE".toList (keyword ++ (Text.trail linking.toList ++ ' ' :: (item ++ t))) = some r ∧
      skip "IS".toList r = item ++ t := by
    cases linking
    case none => exact ⟨item ++ t, phrase?_spells hk hi.begun t, by rw [skip, hs, Option.getD_none]⟩
    case some w =>
      have hw := hl w rfl
      have hw' : Begun w := (isToken_of_spells (rfl : arePlain ["IS".toList]) List.mem_cons_self hw).toIsWord.begun
      refine ⟨w ++ ' ' :: (item ++ t), ?_, ?_⟩
      · simpa [Text.trail] using phrase?_spells hk hw' (' ' :: (item ++ t))
      · rw [skip, phrase?_spells hw hi.begun, Option.getD_some]
  obtain ⟨r, hr, hskip⟩ := hr
  have hn : usageWord? (keyword ++ (Text.trail linking.toList ++ ' ' :: (item ++ t))) = none := by
    refine usageWord?_eq_none fun w hw => ?_
    have hnone : ∀ w ∈ usageHeads, (keyword? w "USAGE".toList).isNone := by decide
    have hblank : beginsBlank (Text.trail linking.toList ++ ' ' :: (item ++ t)) := by cases linking <;> rfl
    exact keyword?_of_spells (headedBy_usage?.word_solid (List.mem_cons_of_mem _ hw)).right (hnone w hw) hk hblank
  rw [usage?_of_wordBegins hb, hr, Option.bind_some, hskip, hn]
  cases usageWord? (item ++ t) <;> rfl

omit hm hi hb ht hk hs in
theorem passesTo_linking (s : Text) : PassesTo usage? (Text.trail linking.toList ++ [' ']) s := by
  refine passesTo_append ?_ (headedBy_usage?.passes_space _)
  refine headedBy_usage?.passes_trail (fun w hw => headedBy_usage?.passes fun v hv => ?_) _ rfl
  have hw := hl w (by simpa using hw)
  exact not_mentions_spells ((by decide : ∀ w ∈ "USAGE".toList :: usageHeads, ¬Mentions w "IS".toList) v hv) hw

-- Where the keyword stands, the usage is read, if it is one of numbers. Else the search goes on after the keyword, and
-- comes to the word.
theorem search_usage?_keyword (hn : ∀ b, search usage? b t = none) :
    (search usage? before (keyword ++ (Text.trail linking.toList ++ ' ' :: (item ++ t)))).map (·.item) =
      (search usage? none item).map (·.item) := by
  have hread {before : Option Char} (hb : wordBegins before) := usage?_keyword hi hb hk hl hs
  cases hw : usageWord? (item ++ t)
  case some found =>
    have hf : usage? none (item ++ t) = some found := (usage?_of_phrase? (hm _ List.suffix_rfl) none).trans hw
    rw [search_of_read ((hread hb).trans hw), ←search_usage?_item hm hi (rfl : wordBegins none) ht hn, search_of_read hf]
  case none =>
    obtain ⟨c, rest, rfl⟩ := List.exists_cons_of_ne_nil (hk.ne_nil (by decide))
    have hnone (before : Option Char) :
        usage? before (c :: (rest ++ (Text.trail linking.toList ++ ' ' :: (item ++ t)))) = none := by
      cases hb : wordBegins before
      case false =>
        rw [usage?, hb]
        rfl
      case true => exact (hread hb).trans hw
    have hrest : PassesTo usage? rest (Text.trail linking.toList ++ ' ' :: (item ++ t)) := by
      have hs : Text.Spells "SAGE".toList rest := (List.cons.inj hk).right
      refine headedBy_usage?.passes (fun w hw => ?_) _ (by cases linking <;> rfl)
      exact not_mentions_spells ((by decide : ∀ w ∈ "USAGE".toList :: usageHeads, ¬Mentions w "SAGE".toList) w hw) hs
    have hp : PassesTo usage? ((c :: rest) ++ (Text.trail linking.toList ++ [' '])) (item ++ t) := by
      refine passesTo_append (passesTo_cons ?_ ?_) (passesTo_linking hl _)
      · simpa using hnone
      · simpa using hrest
    have hb' : wordBegins (latest before (c :: rest ++ (Text.trail linking.toList ++ [' ']))) := by
      rw [latest_append, latest_append]
      exact (by decide : wordBegins (some ' '))
    rw [show c :: rest ++ (Text.trail linking.toList ++ ' ' :: (item ++ t)) =
      c :: rest ++ (Text.trail linking.toList ++ [' ']) ++ (item ++ t) by simp, hp before, Option.map_map]
    exact search_usage?_item hm hi hb' ht hn

end Keyword

-- The usages of numbers are found as they are written.
theorem search_usage?_of_storageUsage (h : OneOf storageUsages s) : (search usage? none s).map (·.item) = some s := by
  have hend : usageEnd? s = some [] := by
    obtain ⟨w, hw, hs⟩ := h
    have all : ∀ w ∈ storageUsages, usageEnd? (w.map Char.toLower) = some [] := by decide +kernel
    have he := usageEnd?_toLower s
    rw [hs, all w hw] at he
    cases hr : usageEnd? s
    case none => simp [hr] at he
    case some r => simpa [hr, eq_comm] using he
  have hread : usage? none s = some (s, []) := by
    have ht : taken s [] = s := by simp [taken]
    rw [usage?_of_phrase? (phrase?_of_solid (h.isToken (rfl : arePlain storageUsages)).solid), usageWord?_eq, hend,
      Option.bind_some, ht]
    rfl
  rw [search_of_read hread]
  rfl

theorem computational?_sound {r : Text} (hs : s.IsAscii) (h : computational? s = some r) :
    ∃ t, s = t ++ r ∧ OneOf ["COMP".toList, "COMPUTATIONAL".toList] t := by
  obtain ⟨u, hc, hr⟩ := Option.bind_eq_some_iff.mp h
  obtain ⟨t, rfl, ht⟩ := spells_of_keyword? hs hc
  cases hk : keyword? "UTATIONAL".toList u <;> rw [hk] at hr <;> cases hr
  case none => exact ⟨t, rfl, _, by decide, ht⟩
  case some =>
    obtain ⟨v, rfl, hv⟩ := spells_of_keyword? (fun c hc => hs c (List.mem_append_right t hc)) hk
    exact ⟨t ++ v, (List.append_assoc t v _).symm, _, by decide, ht.append hv⟩

theorem skipVariant_cases (variants : List Char) (s : Text) :
    skipVariant variants s = s ∨ ∃ d ∈ variants, s = '-' :: d :: skipVariant variants s := by
  unfold skipVariant
  split
  case h_1 d s =>
    split
    case isTrue hd => exact .inr ⟨d, by simpa using hd, rfl⟩
    case isFalse => exact .inl rfl
  case h_2 => exact .inl rfl

-- What is taken for a usage is one of numbers.
theorem usageEnd?_sound {r : Text} (hs : s.IsAscii) (h : usageEnd? s = some r) :
    ∃ t, s = t ++ r ∧ OneOf storageUsages t := by
  have ofKeyword {w : Text} (hw : w ∈ storageUsages) (h : keyword? w s = some r) :
      ∃ t, s = t ++ r ∧ OneOf storageUsages t :=
    have ⟨t, he, ht⟩ := spells_of_keyword? hs h
    ⟨t, he, w, hw, ht⟩
  rw [usageEnd?] at h
  cases hc : computational? s <;> rw [hc] at h
  case none =>
    cases hb : keyword? "BINARY".toList s <;> rw [hb] at h
    case none => exact ofKeyword (by decide) h
    case some => exact ofKeyword (by decide) (hb.trans h)
  case some u =>
    cases h
    obtain ⟨t, rfl, w, hw, ht⟩ := computational?_sound hs hc
    have all : ["COMP".toList, "COMPUTATIONAL".toList].all fun w => storageUsages.contains w &&
        ['3', '4', '5'].all fun d => storageUsages.contains (w ++ ['-', d]) := rfl
    have hv := List.all_eq_true.mp all w hw
    simp only [Bool.and_eq_true, List.contains_iff_mem, List.all_eq_true] at hv
    obtain ⟨hw, hv⟩ := hv
    rcases skipVariant_cases ['3', '4', '5'] u with he | ⟨d, hd, he⟩
    · exact ⟨t, by rw [he], w, hw, ht⟩
    · refine ⟨t ++ ['-', d], ?_, _, hv d hd, ht.append (Text.Spells.refl _)⟩
      rw [List.append_assoc]
      exact congrArg (t ++ ·) he

theorem usageWord?_sound {item r : Text} (hs : s.IsAscii) (h : usageWord? s = some (item, r)) :
    OneOf storageUsages item := by
  obtain ⟨rest, he, h⟩ := Option.bind_eq_some_iff.mp ((usageWord?_eq s).symm.trans h)
  obtain ⟨t, rfl, ht⟩ := usageEnd?_sound hs he
  split at h
  case isFalse => contradiction
  case isTrue =>
    cases h
    rwa [taken_append]

theorem search_usage?_sound (hs : s.IsAscii) (hb : ∀ c ∈ s, isBlank c = false) {found : Found Text}
    (h : search usage? before s = some found) : OneOf storageUsages found.item := by
  obtain ⟨v, hv, b, hr⟩ := read_of_search h
  rw [usage?_of_phrase? (phrase?_of_solid fun c hc => hb c (hv.subset hc))] at hr
  split at hr
  case isFalse => contradiction
  case isTrue => exact usageWord?_sound (fun c hc => hs c (hv.subset hc)) hr

end Clause

namespace UsageClause

-- The usage that is found in the clause.
def heard (u : UsageClause) : Option Text :=
  (search usage? none u.item).map (·.item)

theorem phrase?_usage (u : UsageClause) (ht : beginsBlank t) {v : Text} (hv : v <:+ u.item) :
    phrase? "USAGE".toList (v ++ t) = none := by
  refine phrase?_of_keyword? ?_
  rw [keyword?_append (not_isBlank_of_all rfl) ht, keyword?_of_suffix (u.plain.mute "USAGE".toList (by decide)) hv]
  rfl

theorem search_text (u : UsageClause) (hb : wordBegins before) (ht : beginsBlank t)
    (hn : ∀ b, search usage? b t = none) :
    (search usage? before ((Part.usage u).text ++ t)).map (·.item) = u.heard := by
  have hm (v : Text) := @phrase?_usage t u ht v
  have hi := u.plain.toIsWord
  have afterKeyword {keyword : Text} {linking : Option Text} (hk : Text.Spells "USAGE".toList keyword)
      (hl : ∀ w ∈ linking, Text.Spells "IS".toList w) (he : u.introduction = keyword :: linking.toList) :
      (search usage? before ((Part.usage u).text ++ t)).map (·.item) = u.heard := by
    have htext : (Part.usage u).text ++ t = keyword ++ (Text.trail linking.toList ++ ' ' :: (u.item ++ t)) := by
      rw [Part.text, Part.words, he, List.cons_append, Text.join_cons, Text.trail_append]
      simp [Text.trail]
    rw [htext]
    exact search_usage?_keyword hm hi hb ht hk hl
      (phrase?_eq_none (not_isBlank_of_all rfl) hi.solid u.plain.unlinked ht) hn
  obtain ⟨phrase, hp, h⟩ := u.introduced
  simp only [List.mem_cons, List.not_mem_nil, or_false] at hp
  rcases hp with rfl | rfl | rfl <;> simp only [List.forall₂_cons_left_iff, List.forall₂_nil_left_iff] at h
  case inl =>
    rw [Part.text, Part.words, h]
    exact search_usage?_item hm hi hb ht hn
  case inr.inl =>
    obtain ⟨keyword, _, hk, rfl, he⟩ := h
    exact @afterKeyword keyword none hk (by simp) he
  case inr.inr =>
    obtain ⟨keyword, _, hk, ⟨w, _, hw, rfl, rfl⟩, he⟩ := h
    exact @afterKeyword keyword (some w) hk (by simpa using hw) he

theorem heard_of_storageUsage (u : UsageClause) (h : OneOf storageUsages u.item) : u.heard = some u.item :=
  search_usage?_of_storageUsage h

-- Whether the clause names a usage that takes no picture.
def isBare (u : UsageClause) : Bool :=
  (search bareUsage? none (Part.usage u).text).isSome

theorem search_bareUsage? (u : UsageClause) (hb : before ∈ [none, some ' ']) (ht : beginsBlank t)
    (hn : ∀ b, search Clause.bareUsage? b t = none) :
    (search Clause.bareUsage? before ((Part.usage u).text ++ t)).isSome = u.isBare := by
  have hc : search Clause.bareUsage? before (Part.usage u).text = search Clause.bareUsage? none (Part.usage u).text := by
    have hread (s : Text) : Clause.bareUsage? before s = Clause.bareUsage? none s := by
      simp only [List.mem_cons, List.not_mem_nil, or_false] at hb
      rcases hb with rfl | rfl <;> rfl
    cases (Part.usage u).text <;> rw [search, search, hread]
  have hs := search_append_item headedBy_bareUsage?.nil hn before (s := (Part.usage u).text)
    fun v _ _ => bareUsage?_append ht v
  rw [isBare, ←hc, ←Option.isSome_map (f := (·.item)), hs, Option.isSome_map]

end UsageClause

end Source
end Copybook
