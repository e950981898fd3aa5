import Copybook.Proofs.Source.Quoted
import Copybook.Proofs.Source.Search
import Copybook.Source.Declaration

/-!
What the readers of clauses take when a clause stands before them, with blanks or nothing after it.
-/

namespace Copybook

-- The code points of the blanks.
def blankCodes : List Nat :=
  [0x09, 0x0a, 0x0b, 0x0c, 0x0d, 0x1c, 0x1d, 0x1e, 0x1f, 0x20, 0x85, 0xa0, 0x1680, 0x2000, 0x2001, 0x2002, 0x2003, 0x2004,
    0x2005, 0x2006, 0x2007, 0x2008, 0x2009, 0x200a, 0x2028, 0x2029, 0x202f, 0x205f, 0x3000]

-- What no character of these is, no blank is.
theorem eq_false_of_isBlank {p : Char → Bool} (all : blankCodes.all fun n => !p (Char.ofNat n)) {c : Char}
    (h : isBlank c) : p c = false := by
  simp only [isBlank, Bool.or_eq_true, Bool.and_eq_true, decide_eq_true_eq, beq_iff_eq] at h
  have hm : c.toNat ∈ blankCodes := by
    simp only [blankCodes, List.mem_cons, List.not_mem_nil, or_false]
    omega
  simpa using List.all_eq_true.mp all _ hm

theorem isWordChar_of_isBlank {c : Char} (h : isBlank c) : isWordChar c = false :=
  eq_false_of_isBlank (by decide +kernel) h

theorem isDecimalDigit_of_isBlank {c : Char} (h : isBlank c) : isDecimalDigit c = false :=
  eq_false_of_isBlank (by decide +kernel) h

theorem isDecimalDigit_toLower (c : Char) : isDecimalDigit c.toLower = isDecimalDigit c :=
  eq_toLower (by decide +kernel) c

theorem sameLetter_of_isDecimalDigit {letter c : Char} (hl : isDecimalDigit letter = false) (hc : isDecimalDigit c) :
    sameLetter letter c = false :=
  sameLetter_eq_false isDecimalDigit_toLower (by decide +kernel) hl hc

namespace Source

-- The text begins with something other than a blank.
def Begun (s : Text) : Prop :=
  ∃ c t, s = c :: t ∧ isBlank c = false

-- A run of characters without blanks.
structure IsWord (s : Text) : Prop where
  nonempty : s ≠ []
  solid : ∀ c ∈ s, isBlank c = false

namespace IsWord

variable {s t : Text}

theorem begun (h : IsWord s) : Begun s := by
  obtain ⟨c, t, rfl⟩ := List.exists_cons_of_ne_nil h.nonempty
  exact ⟨c, t, rfl, h.solid c List.mem_cons_self⟩

end IsWord

-- What comes after a blank is no part of a run without blanks.
theorem takeWhile_append {p : Char → Bool} (hp : ∀ c, isBlank c → p c = false) {t : Text} (ht : beginsBlank t) (s : Text) :
    (s ++ t).takeWhile p = s.takeWhile p ∧ (s ++ t).dropWhile p = s.dropWhile p ++ t := by
  induction s
  case nil =>
    cases t
    case nil => exact ⟨rfl, rfl⟩
    case cons c t =>
      have hc : p c = false := hp c (by simpa [beginsBlank] using ht)
      simp [hc]
  case cons c s hi => cases hc : p c <;> simp [hc, hi.left, hi.right]

theorem takeWhile_append_of_beginsBlank {p : Char → Bool} {s t : Text} (hs : ∀ c ∈ s, p c)
    (hp : ∀ c, isBlank c → p c = false) (ht : beginsBlank t) :
    (s ++ t).takeWhile p = s ∧ (s ++ t).dropWhile p = t := by
  have ⟨htake, hdrop⟩ := takeWhile_append hp ht s
  exact ⟨htake.trans (List.takeWhile_eq_self_iff.mpr hs), by rw [hdrop, List.dropWhile_eq_nil_iff.mpr hs, List.nil_append]⟩

namespace Clause

variable {word s t kw : Text} {before : Option Char}

theorem headedBy_value? : HeadedBy value? ["VALUE".toList] where
  solid := rfl
  headed before s h := by
    rw [value?, h _ (List.mem_singleton_self _)]
    cases wordBegins before <;> rfl

theorem headedBy_dependingOn? : HeadedBy dependingOn? ["DEPENDING".toList] where
  solid := rfl
  headed before s h := by
    rw [dependingOn?, phrase?, h _ (List.mem_singleton_self _)]
    cases wordBegins before <;> rfl

theorem headedBy_occurs? : HeadedBy occurs? ["OCCURS".toList] where
  solid := rfl
  headed before s h := by
    rw [occurs?, phrase?, h _ (List.mem_singleton_self _)]
    cases wordBegins before <;> rfl

theorem headedBy_keyPhrase? :
    HeadedBy keyPhrase? ["INDEXED".toList, "ASCENDING".toList, "DESCENDING".toList] where
  solid := rfl
  headed before s h := by
    simp only [List.forall_mem_cons] at h
    obtain ⟨hi, ha, hd, -⟩ := h
    rw [keyPhrase?, phrase?, hi, phrase?, ha, phrase?, hd]
    cases wordBegins before <;> rfl

theorem headedBy_picture? : HeadedBy picture? ["PIC".toList] where
  solid := rfl
  headed before s h := by
    rw [picture?, h _ (List.mem_singleton_self _)]
    cases wordBegins before <;> rfl

-- The words that say how a number is stored.
def usageHeads : List Text :=
  ["COMP".toList, "BINARY".toList, "PACKED-DECIMAL".toList]

theorem usageWord?_eq_none (h : ∀ w ∈ usageHeads, keyword? w s = none) : usageWord? s = none := by
  simp only [usageHeads, List.forall_mem_cons] at h
  obtain ⟨hc, hb, hp, -⟩ := h
  rw [usageWord?, computational?, hc, hb, hp]
  rfl

theorem headedBy_usage? : HeadedBy usage? ("USAGE".toList :: usageHeads) where
  solid := rfl
  headed before s h := by
    obtain ⟨hu, h⟩ := List.forall_mem_cons.mp h
    rw [usage?, phrase?, hu, usageWord?_eq_none h]
    cases wordBegins before <;> rfl

theorem headedBy_bareUsage? : HeadedBy bareUsage? ["COMP".toList, "POINTER".toList, "INDEX".toList] where
  solid := rfl
  headed before s h := by
    simp only [List.forall_mem_cons] at h
    obtain ⟨hc, hp, hi, -⟩ := h
    rw [bareUsage?, computational?, hc, hp, hi]
    cases before.any fun c => isWordChar c || c == '-' <;> rfl

theorem keyword?_suffix (h : keyword? word s = some t) : t <:+ s := by
  induction word generalizing s
  case nil => exact Option.some.inj h ▸ List.suffix_rfl
  case cons l word hi =>
    cases s
    case nil => contradiction
    case cons c s =>
      rw [keyword?] at h
      split at h
      · exact (hi h).trans (List.suffix_cons c s)
      · contradiction

theorem blanks?_space (hs : Begun s) (t : Text) : blanks? (' ' :: (s ++ t)) = some (s ++ t) := by
  obtain ⟨c, u, rfl, hc⟩ := hs
  simp [blanks?, hc, show isBlank ' ' from by decide]

theorem blanks?_eq_none (hs : ∀ c ∈ s, isBlank c = false) (hn : s ≠ []) (t : Text) : blanks? (s ++ t) = none := by
  obtain ⟨c, u, rfl, hc⟩ := (IsWord.mk hn hs).begun
  simp [blanks?, hc]

theorem phrase?_spells (hk : Text.Spells word kw) (hs : Begun s) (t : Text) :
    phrase? word (kw ++ ' ' :: (s ++ t)) = some (s ++ t) := by
  rw [phrase?, keyword?_spells hk]
  exact blanks?_space hs t

-- No word is there that another one stands for.
theorem phrase?_eq_none (hw : ∀ l ∈ word, isBlank l = false) (hs : ∀ c ∈ s, isBlank c = false)
    (hn : keyword? word s ≠ some []) (ht : beginsBlank t) : phrase? word (s ++ t) = none := by
  rw [phrase?, keyword?_append hw ht]
  cases h : keyword? word s
  case none => rfl
  case some r =>
    exact blanks?_eq_none (fun c hc => hs c ((keyword?_suffix h).subset hc)) (fun he => hn (he ▸ h)) t

theorem word?_append (hs : IsWord s) (ht : beginsBlank t) : word? (s ++ t) = some (s, t) := by
  have ⟨htake, hdrop⟩ := @takeWhile_append_of_beginsBlank (!isBlank ·) s t (by simpa using hs.solid) (by simp) ht
  rw [word?, htake, hdrop]
  simp [hs.nonempty]

theorem taken_append (s t : Text) : taken (s ++ t) t = s := by
  simp [taken]

end Clause
end Source
end Copybook
