import Copybook.Proofs.Picture.Suffix
import Copybook.Proofs.Source.Parts

/-!
What a usage makes of the format before it: storage for the digits of a number, nothing if numbers and text are displayed
anyway, and a fault if it is not known.
-/

namespace Copybook

open Source (OneOf storageUsages pictureSymbols)

namespace Picture

variable {s t t' u a b word : Text}

-- A word of ASCII characters.
structure IsSimple (s : Text) : Prop where
  isAscii : s.IsAscii
  solid : ∀ c ∈ s, isBlank c = false

theorem IsSimple.upper (h : IsSimple s) : IsSimple s.upper where
  isAscii := h.isAscii.upper
  solid := by simpa using h.isAscii.forall_upper (p := (!isBlank ·)) (by decide +kernel) (by simpa using h.solid)

theorem tidy_join {pieces : List Text} (h : ∀ s ∈ pieces, IsSimple s) :
    tidy (Text.join [' '] pieces) = Text.join [' '] ((pieces.filter (!·.isEmpty)).map Text.upper) := by
  have hempty : ∀ s ∈ pieces, (!s.upper.isEmpty) = !s.isEmpty := by
    intro s hs
    rw [(h s hs).isAscii.upper_eq_map, List.isEmpty_map]
  rw [tidy, Text.upper_join, Text.words_join (List.forall_mem_map.mpr fun s hs => (h s hs).upper.solid), List.filter_map]
  exact congrArg (fun l => Text.join [' '] (l.map Text.upper)) (List.filter_congr hempty)

theorem tidy_words {pieces : List Text} (h : ∀ s ∈ pieces, IsSimple s ∧ s ≠ []) :
    tidy (Text.join [' '] pieces) = Text.join [' '] (pieces.map Text.upper) := by
  rw [tidy_join fun s hs => (h s hs).left, List.filter_eq_self.mpr fun s hs => by simpa using (h s hs).right]

-- A format as it is written in a clause.
structure IsWritten (s : Text) : Prop where
  symbols : s ⊆ pictureSymbols
  unpointed : s.getLast? ≠ some '.'

namespace IsWritten

theorem isSimple (h : IsWritten s) : IsSimple s := by
  have all : pictureSymbols.all fun c => c.toNat < 0x80 && !isBlank c := rfl
  have hs (c : Char) (hc : c ∈ s) : c.toNat < 0x80 ∧ isBlank c = false := by
    simpa using List.all_eq_true.mp all c (h.symbols hc)
  exact ⟨fun c hc => (hs c hc).left, fun c hc => (hs c hc).right⟩

theorem isFormat_upper (h : IsWritten s) : IsFormat s.upper where
  solid := h.isSimple.upper.solid
  unpointed hl := by
    rw [h.isSimple.isAscii.upper_eq_map, List.getLast?_map, Option.map_eq_some_iff] at hl
    obtain ⟨c, hc, he⟩ := hl
    have all : pictureSymbols.all fun c => c.toUpper != '.' || c == '.' := rfl
    have hp := List.all_eq_true.mp all c (h.symbols (List.mem_of_getLast? hc))
    rw [he] at hp
    exact h.unpointed (beq_iff_eq.mp hp ▸ hc)

end IsWritten

-- A word of letters, digits and hyphens.
structure IsUsage (u : Text) : Prop where
  nonempty : u ≠ []
  letters : ∀ c ∈ u, c.isAlphanum || c == '-'

namespace IsUsage

theorem of_code {p : Char → Bool} (all : ∀ n < 0x80, (Char.ofNat n).isAlphanum || Char.ofNat n == '-' → p (Char.ofNat n))
    (h : IsUsage u) : ∀ c ∈ u, p c := by
  intro c hc
  have hl := h.letters c hc
  have hlt : c.toNat < 0x80 := by
    rw [Bool.or_eq_true, beq_iff_eq] at hl
    rcases hl with hl | rfl
    · exact (toNat_of_isAlphanum hl).right.trans (by decide)
    · decide
  have hp := all c.toNat hlt
  rw [Char.ofNat_toNat] at hp
  exact hp hl

theorem isSimple (h : IsUsage u) : IsSimple u where
  isAscii c hc := by simpa using h.of_code (p := fun c => c.toNat < 0x80) (by decide +kernel) c hc
  solid := by simpa using h.of_code (p := (!isBlank ·)) (by decide +kernel)

theorem upper (h : IsUsage u) : ∀ c ∈ u.upper, isUsageChar c := by
  rw [h.isSimple.isAscii.upper_eq_map, List.forall_mem_map]
  exact h.of_code (p := fun c => isUsageChar c.toUpper) (by decide +kernel)

theorem upper_ne_nil (h : IsUsage u) : u.upper ≠ [] := by
  rw [h.isSimple.isAscii.upper_eq_map]
  simpa using h.nonempty

end IsUsage

theorem usageWord?_of_chars (hn : u ≠ []) (h : ∀ c ∈ u, isUsageChar c) : usageWord? u = some u := by
  have hl : u.getLast? ≠ some '.' := fun hl => absurd (h _ (List.mem_of_getLast? hl)) (by decide)
  rw [usageWord?, if_neg hl, List.isEmpty_eq_false_iff.mpr hn, List.all_eq_true.mpr h]
  rfl

-- A usage may follow with its keyword or without.
theorem follows_words (hu : IsUsage u) {keywords : List Text} (hk : keywords = [] ∨ keywords = ["USAGE".toList]) :
    Follows (some u.upper) (Text.trail (keywords ++ [u.upper])) := by
  have hn : keywords ++ [u.upper] ≠ [] := by simp
  have hw := usageWord?_of_chars hu.upper_ne_nil hu.upper
  have lacks {c : Char} (hc : isUsageChar c = false) (hs : c ∉ "USAGE".toList) : ∀ s ∈ keywords ++ [u.upper], c ∉ s := by
    have hm : c ∉ u.upper := fun hm => Bool.false_ne_true (hc.symm.trans (hu.upper c hm))
    refine List.forall_mem_append.mpr ⟨?_, List.forall_mem_singleton.mpr hm⟩
    rcases hk with rfl | rfl
    · exact nofun
    · exact List.forall_mem_singleton.mpr hs
  refine ⟨Source.beginsBlank_trail _, ?_, ?_⟩
  · intro hm
    obtain ⟨s, hs, hm⟩ := List.mem_flatMap.mp hm
    exact lacks (by decide) (by decide) s hs ((List.mem_cons.mp hm).resolve_left (by decide))
  · rw [Text.trail_of_ne_nil hn, usage?, Text.splitOn_join hn (lacks (by decide) (by decide))]
    rcases hk with rfl | rfl <;> simp [hw]

-- Usages that follow in different words make no difference.
theorem classify_congr (ha : tidy a = s ++ t) (hb : tidy b = s ++ t') (hs : IsFormat s) (ht : Follows (some word) t)
    (ht' : Follows (some word) t') : classify a = classify b := by
  rw [classify_append ha hs ht, classify_append hb hs ht', List.isEmpty_eq_false_iff.mpr ht.ne_nil,
    List.isEmpty_eq_false_iff.mpr ht'.ne_nil]

-- The usage of numbers and text that are displayed may be left out, but no edited format has one.
theorem classify_display (ha : tidy a = s ++ t) (hb : tidy b = s) (hs : IsFormat s)
    (ht : Follows (some "DISPLAY".toList) t) : classify a = match classify b with
      | .ok (.text _ true) => .error .unknown
      | r => r := by
  rw [classify_append ha hs ht, classify_append (hb.trans (List.append_nil s).symm) hs follows_nil,
    List.isEmpty_eq_false_iff.mpr ht.ne_nil]
  cases textLength? s
  case some length =>
    change (checkCounts s).map _ =
      match (checkCounts s).map fun _ => FieldType.text length false with | .ok (.text _ true) => _ | r => r
    cases checkCounts s <;> rfl
  case none =>
    cases number? s
    case some found =>
      dsimp only
      cases checkCounts s <;> rfl
    case none =>
      simp only [List.isEmpty_nil, Bool.true_and, Bool.false_and]
      cases !s.isEmpty && s.all isEditSymbol <;> rfl

theorem storage?_of_not_mem (hw : word ∉ "DISPLAY".toList :: (packedUsages ++ binaryUsages)) :
    storage? (some word) = .error (.usage word) := by
  simp only [List.mem_cons, List.mem_append, not_or] at hw
  obtain ⟨hd, hp, hb⟩ := hw
  simp only [storage?]
  rw [if_neg hd, if_neg (by simpa using hp), if_neg (by simpa using hb)]

-- An unknown usage is a fault, whatever the format.
theorem classify_unknown (ha : tidy a = s ++ t) (hs : IsFormat s) (ht : Follows (some word) t)
    (hw : word ∉ "DISPLAY".toList :: (packedUsages ++ binaryUsages)) : ∃ f, classify a = .error f := by
  have hd : isDisplay (some word) = false := by
    rw [isDisplay, Bool.or_eq_false_iff]
    exact ⟨rfl, beq_false_of_ne fun he => hw (Option.some.inj he ▸ List.mem_cons_self)⟩
  rw [classify_append ha hs ht, List.isEmpty_eq_false_iff.mpr ht.ne_nil, hd, storage?_of_not_mem hw]
  cases textLength? s
  case some => exact ⟨_, rfl⟩
  case none =>
    cases number? s
    case none => exact ⟨_, rfl⟩
    case some found =>
      dsimp only
      cases checkCounts s <;> exact ⟨_, rfl⟩

-- A format with the usage that is written after it.
def described (p u : Text) : Text :=
  Text.join [' '] [p, "USAGE".toList, u]

theorem isUsage_of_storageUsage (h : OneOf storageUsages u) : IsUsage u where
  nonempty := (h.isToken rfl).nonempty
  letters := by
    obtain ⟨w, hw, hs⟩ := h
    have all : storageUsages.all fun w => w.all fun c => c.isAlphanum || c == '-' := rfl
    refine hs.forall (fun c => ?_) (List.all_eq_true.mp (List.all_eq_true.mp all w hw))
    rw [eq_toLower (f := fun c : Char => c.isAlphanum || c == '-') (by decide +kernel)]

theorem isUsage_keyword : IsUsage "USAGE".toList :=
  ⟨by decide, List.all_eq_true.mp rfl⟩

section Described

variable {p : Text} (hp : IsWritten p) (hn : p ≠ [])

include hp hn

theorem upper_ne_nil : p.upper ≠ [] := by
  rw [hp.isSimple.isAscii.upper_eq_map]
  simpa using hn

theorem tidy_format : tidy p = p.upper ∧ tidy p.upper = p.upper :=
  ⟨@tidy_words [p] (by simpa using ⟨hp.isSimple, hn⟩),
    (@tidy_words [p.upper] (by simpa using ⟨hp.isSimple.upper, upper_ne_nil hp hn⟩)).trans
      hp.isSimple.isAscii.upper_upper⟩

variable (hu : IsUsage u)

include hu

theorem tidy_described : tidy (described p u) = p.upper ++ Text.trail ["USAGE".toList, u.upper] := by
  have h : ∀ s ∈ [p, "USAGE".toList, u], IsSimple s ∧ s ≠ [] :=
    List.forall_mem_cons.mpr ⟨⟨hp.isSimple, hn⟩, List.forall_mem_cons.mpr ⟨⟨isUsage_keyword.isSimple, by decide⟩,
      List.forall_mem_singleton.mpr ⟨hu.isSimple, hu.nonempty⟩⟩⟩
  rw [described, tidy_words h]
  exact Text.join_cons _ _

theorem tidy_heard : tidy (p.upper ++ ' ' :: u.upper) = p.upper ++ Text.trail [u.upper] := by
  have h : ∀ s ∈ [p.upper, u.upper], IsSimple s ∧ s ≠ [] :=
    List.forall_mem_cons.mpr ⟨⟨hp.isSimple.upper, upper_ne_nil hp hn⟩,
      List.forall_mem_singleton.mpr ⟨hu.isSimple.upper, hu.upper_ne_nil⟩⟩
  have ht := tidy_words h
  rw [List.map_cons, List.map_singleton, hp.isSimple.isAscii.upper_upper, hu.isSimple.isAscii.upper_upper,
    Text.join_cons] at ht
  simpa [Text.trail] using ht

-- With a usage after it a format is read as with the usage and its keyword.
theorem classify_heard : classify (p.upper ++ ' ' :: u.upper) = classify (described p u) :=
  classify_congr (tidy_heard hp hn hu) (tidy_described hp hn hu) hp.isFormat_upper
    (@follows_words u hu [] (.inl rfl)) (@follows_words u hu ["USAGE".toList] (.inr rfl))

theorem classify_described_display (hd : Text.Spells "DISPLAY".toList u) :
    classify (described p u) = match classify p with
      | .ok (.text _ true) => .error .unknown
      | r => r := by
  have hword : IsUsage "DISPLAY".toList := ⟨by decide, List.all_eq_true.mp rfl⟩
  have hupper : u.upper = "DISPLAY".toList := hd.upper_eq hword.isSimple.isAscii hu.isSimple.isAscii
  have hf := @follows_words u hu ["USAGE".toList] (.inr rfl)
  rw [hupper] at hf
  exact classify_display (hupper ▸ tidy_described hp hn hu) (tidy_format hp hn).left hp.isFormat_upper hf

theorem classify_described_unknown (h : ¬OneOf ("DISPLAY".toList :: storageUsages) u) :
    ∃ f, classify (described p u) = .error f := by
  refine classify_unknown (tidy_described hp hn hu) hp.isFormat_upper (@follows_words u hu ["USAGE".toList] (.inr rfl))
    fun hm => h ⟨u.upper, ?_, hu.isSimple.isAscii.spells_upper⟩
  have all : (packedUsages ++ binaryUsages).all fun w => storageUsages.contains w := rfl
  refine (List.mem_cons.mp hm).elim (fun he => he ▸ List.mem_cons_self) fun hm => List.mem_cons_of_mem _ ?_
  simpa using List.all_eq_true.mp all _ hm

end Described

-- Without a format the keyword is taken for it, which is no format.
theorem classify_keyword {usage : Option Text} (ha : tidy a = "USAGE".toList ++ t) (ht : Follows usage t) :
    classify a = .error .unknown := by
  have hs : IsFormat "USAGE".toList := ⟨isUsage_keyword.isSimple.solid, by decide⟩
  have hl : textLength? "USAGE".toList = none := rfl
  have hn : number? "USAGE".toList = none := rfl
  have he : "USAGE".toList.all isEditSymbol = false := rfl
  rw [classify_append ha hs ht, hl, hn, he, Bool.and_false]
  rfl

theorem classify_missing (hu : IsUsage u) : classify (described [] u) = .error .unknown ∧
    classify "USAGE".toList = .error .unknown ∧ classify ("USAGE".toList ++ ' ' :: u.upper) = .error .unknown := by
  have hk : IsSimple "USAGE".toList ∧ "USAGE".toList ≠ [] := ⟨isUsage_keyword.isSimple, by decide⟩
  have hf := @follows_words u hu [] (.inl rfl)
  -- What comes after the keyword is one word, in capitals or not.
  have htidy {w : Text} (hw : IsSimple w) (hn : w ≠ []) (he : w.upper = u.upper) :
      tidy (Text.join [' '] ["USAGE".toList, w]) = "USAGE".toList ++ Text.trail ([] ++ [u.upper]) := by
    rw [tidy_words (List.forall_mem_cons.mpr ⟨hk, List.forall_mem_singleton.mpr ⟨hw, hn⟩⟩), ←he]
    exact Text.join_cons _ _
  refine ⟨classify_keyword ?_ hf, classify_keyword rfl follows_nil, classify_keyword ?_ hf⟩
  case refine_1 =>
    have h : ∀ s ∈ [[], "USAGE".toList, u], IsSimple s :=
      List.forall_mem_cons.mpr ⟨⟨List.forall_mem_nil _, List.forall_mem_nil _⟩,
        List.forall_mem_cons.mpr ⟨hk.left, List.forall_mem_singleton.mpr hu.isSimple⟩⟩
    have hl : [[], "USAGE".toList, u].filter (!·.isEmpty) = ["USAGE".toList, u].filter (!·.isEmpty) := rfl
    have hw : ∀ s ∈ ["USAGE".toList, u], IsSimple s := fun s hs => h s (List.mem_cons_of_mem _ hs)
    rw [described, tidy_join h, hl, ←tidy_join hw]
    exact htidy hu.isSimple hu.nonempty rfl
  case refine_2 =>
    have ht := htidy hu.isSimple.upper hu.upper_ne_nil hu.isSimple.isAscii.upper_upper
    rwa [Text.join_cons, Text.trail_cons, Text.trail, List.flatMap_nil, List.append_nil] at ht

end Picture
end Copybook
