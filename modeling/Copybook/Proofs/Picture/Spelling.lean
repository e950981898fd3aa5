import Copybook.Proofs.Except
import Copybook.Proofs.Picture.Run
import Copybook.Proofs.Text.Case

/-!
A picture that is no edited one is written with runs, and then a usage. Its type is what they stand for, unless one of
the counts has more digits than are read.
-/

namespace Copybook

variable {s t p : Text} {usage : Option Text} {rs : List Picture.Run} {type : FieldType}

def FieldType.isEdited : FieldType → Bool
  | text _ edited => edited
  | number _ _ => false

namespace Picture

section Tidy

-- Whether a character is tidy as it is.
def IsTidy (c : Char) : Prop :=
  isBlank c = false ∧ upperChar c = [c]

theorem isTidy_of_mem {symbols : Text} (all : symbols.all fun c => !isBlank c && upperChar c == [c]) {c : Char}
    (h : c ∈ symbols) : IsTidy c := by
  simpa [IsTidy] using List.all_eq_true.mp all c h

theorem isTidy_of_isDecimalDigit {c : Char} (h : isDecimalDigit c) : IsTidy c := by
  refine ⟨Bool.eq_false_iff.mpr fun hb => ?_, upperChar_of_isDecimalDigit h⟩
  rw [isDecimalDigit_of_isBlank hb] at h
  contradiction

theorem isTidy_of_isUsageChar {c : Char} (h : isUsageChar c) : IsTidy c := by
  have all : ∀ n < 0x80, isUsageChar (Char.ofNat n) → IsTidy (Char.ofNat n) := by
    unfold IsTidy
    decide +kernel
  have hlt : c.toNat < 0x80 := by
    simp only [isUsageChar, Bool.or_eq_true, beq_iff_eq] at h
    rcases h with (hu | hd) | rfl
    · exact (toNat_of_isAlphanum (by simp [Char.isAlphanum, Char.isAlpha, hu])).right.trans (by decide)
    · exact (toNat_of_isAlphanum (by simp [Char.isAlphanum, hd])).right.trans (by decide)
    · decide
  have hc := all c.toNat hlt
  rw [Char.ofNat_toNat] at hc
  exact hc h

theorem tidy_of_isTidy {pieces : List Text} (h : ∀ w ∈ pieces, w ≠ [] ∧ ∀ c ∈ w, IsTidy c) :
    tidy (Text.join [' '] pieces) = Text.join [' '] pieces := by
  have hupper : pieces.map Text.upper = pieces := by
    refine (List.map_congr_left fun w hw => ?_).trans (List.map_id pieces)
    have hc := List.flatMap_congr fun c hc => ((h w hw).right c hc).right
    exact hc.trans (List.flatMap_singleton' w)
  rw [tidy, Text.upper_join, hupper, Text.words_join fun w hw c hc => ((h w hw).right c hc).left,
    List.filter_eq_self.mpr fun w hw => by simpa using (h w hw).left]

theorem isTidy_of_mem_spell (hr : rs.all Run.isValid) {c : Char} (hc : c ∈ spell rs) : IsTidy c := by
  have of_mark {c : Char} (h : c ∈ "SVXAB9()".toList) : IsTidy c := isTidy_of_mem rfl h
  have of_counted {c : Char} (h : isCounted c) : IsTidy c := by
    simp only [isCounted, isTextSymbol, isNine, Bool.or_eq_true, beq_iff_eq] at h
    rcases h with ((rfl | rfl) | rfl) | rfl <;> exact of_mark (by decide)
  obtain ⟨⟨symbol, count⟩, hm, hc⟩ := List.mem_flatMap.mp hc
  have hv := List.all_eq_true.mp hr _ hm
  cases count
  case none =>
    rw [Run.text, List.mem_singleton] at hc
    obtain rfl : c = symbol := hc
    simp only [Run.isValid, isMark, Bool.or_eq_true, beq_iff_eq] at hv
    rcases hv with (rfl | rfl) | hv
    · exact of_mark (by decide)
    · exact of_mark (by decide)
    · exact of_counted hv
  case some digits =>
    simp only [Run.isValid, Bool.and_eq_true, List.all_eq_true] at hv
    simp only [Run.text, List.mem_cons, List.mem_append, List.not_mem_nil, or_false] at hc
    rcases hc with rfl | rfl | hd | rfl
    · exact of_counted hv.left.left
    · exact of_mark (by decide)
    · exact isTidy_of_isDecimalDigit (hv.right c hd)
    · exact of_mark (by decide)

end Tidy

-- A text that the runs are written in, and the usage after them.
structure Spelled (rs : List Run) (usage : Option Text) (s : Text) : Prop where
  valid : rs.all Run.isValid
  text : ∃ t, s = spell rs ++ t ∧ usage? t = some usage

namespace Spelled

theorem head?_eq_some_iff {c : Char} (h : Spelled rs usage s) (hp : c ≠ '.') (hb : c ≠ ' ') :
    s.head? = some c ↔ rs.head?.map Run.symbol = some c := by
  obtain ⟨t, rfl, ht⟩ := h.text
  cases rs
  case nil => exact ⟨fun hc => absurd (isTail_of_usage? ht c hc) (not_or.mpr ⟨hp, hb⟩), nofun⟩
  case cons => exact Iff.rfl

-- After a symbol without a count the other runs follow.
theorem tail {c : Char} (h : Spelled rs usage s) (hc : isMark c) (hs : s.head? = some c) :
    ∃ rest, rs = ⟨c, none⟩ :: rest ∧ Spelled rest usage s.tail := by
  obtain ⟨hn, hp, hb⟩ := of_isMark hc
  have hh := (h.head?_eq_some_iff hp hb).mp hs
  obtain ⟨hr, t, rfl, ht⟩ := h
  cases rs
  case nil => contradiction
  case cons r rest =>
    rw [List.all_cons, Bool.and_eq_true] at hr
    obtain rfl : r.symbol = c := Option.some.inj hh
    have he := Run.eq_single hr.left hn
    refine ⟨rest, congrArg (· :: rest) he, hr.right, t, ?_, ht⟩
    rw [he]
    rfl

theorem usage? (h : Spelled rs usage s) : usage? s = if rs = [] then some usage else none := by
  obtain ⟨hr, t, rfl, ht⟩ := h
  cases rs
  case nil => exact ht
  case cons r rs =>
    rw [List.all_cons, Bool.and_eq_true] at hr
    have hp : r.symbol ≠ '.' := Run.symbol_ne hr.left rfl rfl
    have hb : r.symbol ≠ ' ' := Run.symbol_ne hr.left rfl rfl
    have hstep : spell (r :: rs) ++ t = r.symbol :: ((spell (r :: rs) ++ t).tail) := rfl
    rw [if_neg (List.cons_ne_nil r rs), hstep]
    unfold Picture.usage?
    split
    case h_1 he => contradiction
    case h_2 he => exact absurd (List.cons.inj he).left hp
    case h_3 he => exact absurd (List.cons.inj he).left hb
    case h_4 => rfl

theorem dropWhile (hr : rs.all Run.isValid) (hu : Picture.usage? t = some usage) (p : Run → Bool) :
    Spelled (rs.dropWhile p) usage (spell (rs.dropWhile p) ++ t) where
  valid := List.all_eq_true.mpr fun r h => List.all_eq_true.mp hr r ((List.dropWhile_sublist p).mem h)
  text := ⟨t, rfl, hu⟩

-- Runs and a usage are tidy as they are.
theorem tidy_eq (h : Spelled rs usage s) (hn : rs ≠ []) : tidy s = s := by
  obtain ⟨hr, t, rfl, ht⟩ := h
  have hne : spell rs ≠ [] := by
    obtain ⟨r, rest, rfl⟩ := List.exists_cons_of_ne_nil hn
    exact List.cons_ne_nil _ _
  have hc (c : Char) (h : c ∈ spell rs) : IsTidy c := isTidy_of_mem_spell hr h
  have hpoint : IsTidy '.' := @isTidy_of_mem ['.'] rfl _ List.mem_cons_self
  rcases usage?_cases ht with rfl | rfl | ⟨words, -, rfl, hw⟩
  case inl =>
    rw [List.append_nil]
    exact @tidy_of_isTidy [spell rs] (List.forall_mem_singleton.mpr ⟨hne, hc⟩)
  case inr.inl =>
    refine @tidy_of_isTidy [spell rs ++ ['.']] (List.forall_mem_singleton.mpr ⟨by simp, ?_⟩)
    exact List.forall_mem_append.mpr ⟨hc, List.forall_mem_singleton.mpr hpoint⟩
  case inr.inr =>
    rw [←Text.join_cons]
    refine tidy_of_isTidy (List.forall_mem_cons.mpr ⟨⟨hne, hc⟩, fun w hm => ⟨(hw w hm).left, fun c hc => ?_⟩⟩)
    exact ((hw w hm).right c hc).elim isTidy_of_isUsageChar fun h => h ▸ hpoint

end Spelled

-- The type, unless a count of so many digits is too long to be read.
def counted (type : FieldType) (lengths : List Nat) : Except Fault FieldType :=
  match lengths.find? (maxDigits < ·) with
  | none => .ok type
  | some n => .error (.digits (.read n))

theorem counted_eq_ok_iff {lengths : List Nat} : counted type lengths = .ok type ↔ ∀ n ∈ lengths, n ≤ maxDigits := by
  unfold counted
  cases h : lengths.find? (maxDigits < ·)
  case none => simpa using h
  case some n =>
    have hn := List.find?_some h
    refine ⟨nofun, fun hl => ?_⟩
    have := hl n (List.mem_of_find?_eq_some h)
    simp at hn
    omega

theorem checkCounts_map (s : Text) (type : FieldType) :
    ((checkCounts s).map fun _ => type) = counted type ((counts s).map List.length) := by
  rw [checkCounts]
  induction counts s
  case nil => rfl
  case cons digits rest hi =>
    rw [List.map_cons]
    by_cases hl : maxDigits < digits.length
    case pos =>
      have hr : Text.readNat digits = .error (.read digits.length) := if_pos hl
      rw [counted, List.find?_cons_of_pos (by simpa using hl), List.forM_eq_forM, List.forM_cons, hr]
      rfl
    case neg =>
      have hr : Text.readNat digits = .ok (Text.toNat digits) := if_neg hl
      rw [counted, List.find?_cons_of_neg (by simpa using hl), ←counted, ←hi, List.forM_eq_forM, List.forM_cons, hr]
      rfl

theorem Spelled.lengths (h : Spelled rs usage s) : (counts s).map List.length = countLengths rs := by
  obtain ⟨hr, t, rfl, ht⟩ := h
  rw [counts_spell hr (not_mem_of_usage? ht), List.map_filterMap]
  rfl

theorem classify_of_textLength? {n : Nat} (h : textLength? (tidy p) = some n) :
    classify p = counted (.text n false) ((counts (tidy p)).map List.length) := by
  rw [classify]
  simp only [h]
  exact checkCounts_map _ _

theorem classify_of_number? {shape : NumberShape} {storage : Storage} (h : number? (tidy p) = some (shape, usage))
    (hs : storage? usage = .ok storage) :
    classify p = counted (.number storage shape) ((counts (tidy p)).map List.length) := by
  have ht : textLength? (tidy p) = none := by
    cases ht : textLength? (tidy p)
    case none => rfl
    case some => exact absurd (number?_of_text (by rw [ht]; rfl)) (by rw [h]; nofun)
  rw [classify]
  simp only [ht, h, hs]
  exact checkCounts_map _ _

-- A type that is not edited comes from runs of text symbols, or from digits.
theorem of_classify (h : classify p = .ok type) (hp : type.isEdited = false) :
    (∃ n, textLength? (tidy p) = some n ∧ type = .text n false) ∨
      ∃ shape usage storage, number? (tidy p) = some (shape, usage) ∧ storage? usage = .ok storage ∧
        type = .number storage shape := by
  rw [classify] at h
  cases ht : textLength? (tidy p)
  case some n =>
    simp only [ht] at h
    cases hc : checkCounts (tidy p) <;> rw [hc] at h <;> cases h
    exact .inl ⟨n, rfl, rfl⟩
  case none =>
    simp only [ht] at h
    cases hn : number? (tidy p)
    case some found =>
      obtain ⟨shape, usage⟩ := found
      simp only [hn] at h
      obtain ⟨_, _, h⟩ := bind_eq_ok_iff.mp h
      obtain ⟨storage, hs, h⟩ := bind_eq_ok_iff.mp h
      cases h
      exact .inr ⟨shape, usage, storage, rfl, hs, rfl⟩
    case none =>
      simp only [hn] at h
      split at h <;> cases h
      contradiction

theorem runsTo_digits? {i f : Nat} {u : Text} (h : digits? s = some (i, f, u)) : RunsTo s u := by
  rw [digits?_eq] at h
  cases hi : runs? isNine s <;> simp only [hi] at h
  case none =>
    split at h
    case isFalse => contradiction
    case isTrue hv =>
      obtain ⟨_, hf, he⟩ := Option.map_eq_some_iff.mp h
      cases he
      exact .trans (.tail rfl hv) (runsTo_runs? isCounted_of_isNine hf)
  case some found =>
    have hw := runsTo_runs? isCounted_of_isNine hi
    split at h
    case isFalse =>
      cases h
      exact hw
    case isTrue hv =>
      have ht := hw.trans (.tail rfl hv)
      cases hf : runs? isNine found.2.tail <;> simp only [hf] at h <;> cases h
      case none => exact ht
      case some => exact ht.trans (runsTo_runs? isCounted_of_isNine hf)

theorem RunsTo.exists_spelled (h : RunsTo s t) (hu : usage? t = some usage) : ∃ rs, Spelled rs usage s := by
  obtain ⟨rs, hr, rfl⟩ := h
  exact ⟨rs, hr, t, rfl, hu⟩

theorem exists_spelled_of_text {n : Nat} (h : textLength? s = some n) : ∃ rs usage, Spelled rs usage s := by
  obtain ⟨⟨n, u⟩, hr, h⟩ := Option.bind_eq_some_iff.mp h
  obtain ⟨usage, hu, -⟩ := Option.bind_eq_some_iff.mp h
  obtain ⟨rs, h⟩ := (runsTo_runs? isCounted_of_isTextSymbol hr).exists_spelled hu
  exact ⟨rs, usage, h⟩

theorem exists_spelled_of_number {shape : NumberShape} (h : number? s = some (shape, usage)) : ∃ rs, Spelled rs usage s := by
  have hsign : RunsTo s (unsigned s) := by
    unfold unsigned
    split
    case isTrue hs => exact .tail rfl hs
    case isFalse => exact .refl s
  rw [number?_eq] at h
  obtain ⟨⟨i, f, u⟩, hd, h⟩ := Option.bind_eq_some_iff.mp h
  obtain ⟨usage, hu, he⟩ := Option.map_eq_some_iff.mp h
  cases he
  exact (hsign.trans (runsTo_digits? hd)).exists_spelled hu

-- Every picture that is not an edited one is written with runs, and then a usage.
theorem exists_spelled (h : classify p = .ok type) (hp : type.isEdited = false) : ∃ rs usage, Spelled rs usage (tidy p) := by
  rcases of_classify h hp with ⟨n, hn, -⟩ | ⟨shape, usage, storage, hn, -⟩
  case inl => exact exists_spelled_of_text hn
  case inr =>
    obtain ⟨rs, hs⟩ := exists_spelled_of_number hn
    exact ⟨rs, usage, hs⟩

-- A picture that stands for a type has a symbol.
theorem Spelled.ne_nil (h : Spelled rs usage (tidy p)) (hc : classify p = .ok type) (hp : type.isEdited = false) :
    rs ≠ [] := by
  rintro rfl
  obtain ⟨-, t, ht, hu⟩ := h
  have hh : IsTail (tidy p) := by
    rw [ht]
    exact isTail_of_usage? hu
  have hruns {symbol : Char → Bool} (hs : ∀ c, symbol c → isCounted c) : runs? symbol (tidy p) = none := by
    rw [runs?, any_head?_of_isTail hs hh]
    exact if_neg Bool.false_ne_true
  have hhead {c : Char} (hp : c ≠ '.') (hb : c ≠ ' ') : (tidy p).head? ≠ some c := fun h => (hh c h).elim hp hb
  rcases of_classify hc hp with ⟨n, hn, -⟩ | ⟨shape, word, storage, hn, -⟩
  case inl =>
    rw [textLength?, hruns isCounted_of_isTextSymbol] at hn
    contradiction
  case inr =>
    have hd : digits? (tidy p) = none := by
      rw [digits?_eq, hruns isCounted_of_isNine]
      exact if_neg (hhead (by decide) (by decide))
    rw [number?_eq, unsigned, if_neg (hhead (by decide) (by decide)), hd] at hn
    contradiction

-- Runs of text symbols are text of as many characters.
theorem Spelled.textLength?_eq (h : Spelled rs usage s) (hn : rs ≠ []) (hr : rs.all (isTextSymbol ·.symbol))
    (hd : isDisplay usage) : textLength? s = some (total rs) := by
  obtain ⟨hv, t, rfl, ht⟩ := h
  have hh : rs.head?.any (isTextSymbol ·.symbol) := by
    obtain ⟨r, rest, rfl⟩ := List.exists_cons_of_ne_nil hn
    exact List.all_eq_true.mp hr r List.mem_cons_self
  have hall := List.all_eq_true.mp hr
  rw [textLength?, runs?_spell isCounted_of_isTextSymbol hv (isTail_of_usage? ht), if_pos hh,
    List.takeWhile_eq_self_iff.mpr hall, List.dropWhile_eq_nil_iff.mpr hall]
  simp [spell, ht, hd]

-- Runs of text symbols stand for text of their length.
theorem classify_spell (hr : rs.all Run.isValid) (hn : rs ≠ []) (ht : rs.all (isTextSymbol ·.symbol)) :
    classify (spell rs) = counted (.text (total rs) false) (countLengths rs) := by
  have hs : Spelled rs none (spell rs) := ⟨hr, [], (List.append_nil _).symm, rfl⟩
  have hl : textLength? (tidy (spell rs)) = some (total rs) := by
    rw [hs.tidy_eq hn]
    exact hs.textLength?_eq hn ht rfl
  rw [classify_of_textLength? hl, hs.tidy_eq hn, hs.lengths]

end Picture
end Copybook
