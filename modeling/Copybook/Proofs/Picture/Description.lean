import Copybook.Proofs.Decimal.Text
import Copybook.Proofs.Field.Width
import Copybook.Proofs.Picture.Regrouping

/-!
The picture that describes a type stands for that type again, and so does every regrouping of the pictures that stand
for it. Only counts of more digits than are read make a difference.
-/

namespace Copybook

variable {s t p : Text} {usage : Option Text} {rs : List Picture.Run} {type : FieldType} {shape : NumberShape}

namespace Picture.Run

-- A symbol that stands so many times.
def times (c : Char) (n : Nat) : Run :=
  ⟨c, some (Text.ofNat n)⟩

theorem size_times (c : Char) (n : Nat) : (times c n).size = n :=
  Text.toNat_ofNat n

theorem isValid_times {c : Char} (hc : isCounted c) (n : Nat) : (times c n).isValid := by
  have hv : (times c n).isValid = (isCounted c && !(Text.ofNat n).isEmpty && (Text.ofNat n).all isDecimalDigit) := rfl
  have hn : (Text.ofNat n).isEmpty = false := by
    obtain ⟨d, s, hd⟩ := Text.ofNat_cons n
    rw [hd]
    rfl
  rw [hv, hc, hn, List.all_eq_true.mpr fun _ h => Text.isDecimalDigit_of_mem_ofNat h]
  rfl

end Picture.Run

open Picture (Run spell total Spelled)

-- The runs of the digits before and after the point.
def NumberShape.runs (shape : NumberShape) : List Run :=
  (if shape.intDigits = 0 then [] else [.times '9' shape.intDigits]) ++
    (if shape.fracDigits = 0 then [] else [⟨'V', none⟩, .times '9' shape.fracDigits])

namespace FieldType

-- The numbers that the picture of a type may have in it.
def numbers : FieldType → List Nat
  | text length _ => [length]
  | number _ shape => [shape.intDigits, shape.fracDigits]

-- The runs that a type is described with, and the usage after them.
def runs : FieldType → List Run
  | text length _ => [.times 'X' length]
  | number _ shape => (if shape.signed then [⟨'S', none⟩] else []) ++ shape.runs

def shownUsage : FieldType → Option Text
  | number .packed _ => some "COMP-3".toList
  | number .binary _ => some "COMP".toList
  | _ => none

theorem describe_eq (h : type.isEdited = false) : type.describe = spell type.runs ++ Text.trail type.shownUsage.toList := by
  cases type
  case text length edited =>
    obtain rfl : edited = false := h
    simp [describe, runs, shownUsage, spell, Run.times, Run.text, Text.trail]
  case number storage shape =>
    have hdigits : digitsPicture shape = spell (runs (number storage shape)) := by
      simp only [digitsPicture, runs, NumberShape.runs]
      split <;> split <;> split <;> simp [spell, Run.times, Run.text]
    cases storage
    case zoned => exact congrArg (· ++ []) hdigits
    case packed => exact congrArg (· ++ " COMP-3".toList) hdigits
    case binary => exact congrArg (· ++ " COMP".toList) hdigits

theorem isValid_runs (type : FieldType) : type.runs.all Run.isValid := by
  cases type
  case text length edited =>
    rw [runs, List.all_cons, Run.isValid_times rfl]
    rfl
  case number storage shape =>
    have hv : Run.isValid ⟨'V', none⟩ := rfl
    have hS : Run.isValid ⟨'S', none⟩ := rfl
    have h9 (n : Nat) : (Run.times '9' n).isValid := Run.isValid_times rfl n
    simp only [runs, NumberShape.runs]
    split <;> split <;> split <;> simp [hv, hS, h9]

theorem runs_ne_nil (hd : type.HasDigits) : type.runs ≠ [] := by
  cases type
  case text => exact List.cons_ne_nil _ _
  case number storage shape =>
    have hd : 0 < shape.intDigits + shape.fracDigits := hd
    simp only [runs, NumberShape.runs]
    split <;> split <;> split <;> simp
    omega

theorem spelled_describe (h : type.isEdited = false) (hd : type.HasDigits) :
    Spelled type.runs type.shownUsage (Picture.tidy type.describe) := by
  have hs : Spelled type.runs type.shownUsage type.describe := by
    refine ⟨isValid_runs type, _, describe_eq h, ?_⟩
    unfold shownUsage
    split <;> rfl
  rwa [hs.tidy_eq (runs_ne_nil hd)]

end FieldType

namespace Picture

-- One run of digits is read, and what follows it is left if it does not begin with digits.
theorem runs?_times (hr : rs.all Run.isValid) (hh : rs.head?.any (isNine ·.symbol) = false)
    (ht : usage? t = some usage) (n : Nat) :
    runs? isNine (spell (.times '9' n :: rs) ++ t) = some (n, spell rs ++ t) := by
  have hv : (Run.times '9' n :: rs).all Run.isValid := by
    rw [List.all_cons, hr, Run.isValid_times rfl]
    rfl
  have htake : rs.takeWhile (isNine ·.symbol) = [] ∧ rs.dropWhile (isNine ·.symbol) = rs := by
    cases rs
    case nil => exact ⟨rfl, rfl⟩
    case cons r rs =>
      have hr : ¬isNine r.symbol := Bool.eq_false_iff.mp hh
      exact ⟨List.takeWhile_cons_of_neg hr, List.dropWhile_cons_of_neg hr⟩
  have h9 : isNine (Run.times '9' n).symbol := rfl
  have hfirst : (Run.times '9' n :: rs).head?.any (isNine ·.symbol) := h9
  have hall : (Run.times '9' n :: rs).takeWhile (isNine ·.symbol) = [.times '9' n] ∧
      (Run.times '9' n :: rs).dropWhile (isNine ·.symbol) = rs :=
    ⟨(List.takeWhile_cons_of_pos (p := fun r : Run => isNine r.symbol) h9).trans (congrArg _ htake.left),
      (List.dropWhile_cons_of_pos (p := fun r : Run => isNine r.symbol) h9).trans htake.right⟩
  rw [runs?_spell isCounted_of_isNine hv (isTail_of_usage? ht), if_pos hfirst, hall.left, hall.right, total_cons,
    Run.size_times]
  rfl

theorem digits?_runs (hd : 0 < shape.digits) (ht : usage? t = some usage) :
    digits? (spell shape.runs ++ t) = some (shape.intDigits, shape.fracDigits, t) := by
  obtain ⟨i, f, signed⟩ := shape
  have hd : 0 < i + f := hd
  have hV : t.head? ≠ some 'V' := fun h => by cases isTail_of_usage? ht _ h <;> contradiction
  have hone {n : Nat} : runs? isNine (spell [.times '9' n] ++ t) = some (n, t) := runs?_times rfl rfl ht n
  -- A fraction stands after the point, whether there are digits in front of that or not.
  have hfraction : (spell [⟨'V', none⟩, .times '9' f] ++ t).head? = some 'V' ∧
      (spell [⟨'V', none⟩, .times '9' f] ++ t).tail = spell [.times '9' f] ++ t := ⟨rfl, rfl⟩
  rw [digits?_eq, NumberShape.runs]
  by_cases hi : i = 0
  case pos =>
    have hf : f ≠ 0 := by omega
    have hn : runs? isNine (spell [⟨'V', none⟩, .times '9' f] ++ t) = none := rfl
    rw [if_pos hi, if_neg hf, List.nil_append, hn, hfraction.left, hfraction.right, hone, hi]
    rfl
  case neg =>
    by_cases hf : f = 0
    case pos =>
      rw [if_neg hi, if_pos hf, List.append_nil, hone, hf]
      exact if_neg hV
    case neg =>
      have hv : [⟨'V', none⟩, Run.times '9' f].all Run.isValid := by
        rw [List.all_cons, List.all_cons, Run.isValid_times rfl]
        rfl
      rw [if_neg hi, if_neg hf, List.singleton_append, runs?_times hv rfl ht]
      dsimp only
      rw [if_pos hfraction.left, hfraction.right, hone]

theorem number?_runs {storage : Storage} (hd : 0 < shape.digits) (ht : usage? t = some usage) :
    number? (spell (FieldType.runs (.number storage shape)) ++ t) = some (shape, usage) := by
  rw [number?_eq, FieldType.runs, spell_append, List.append_assoc]
  have hdigits := digits?_runs hd ht
  obtain ⟨i, f, signed⟩ := shape
  cases signed
  case true =>
    have hu : unsigned (spell [⟨'S', none⟩] ++ (spell (NumberShape.runs ⟨i, f, true⟩) ++ t)) =
        spell (NumberShape.runs ⟨i, f, true⟩) ++ t := rfl
    rw [if_pos rfl, hu, hdigits, Option.bind_some]
    dsimp only
    rw [ht]
    rfl
  case false =>
    have hv : (NumberShape.runs ⟨i, f, false⟩).all Run.isValid := FieldType.isValid_runs (.number storage ⟨i, f, false⟩)
    have hS : (spell (NumberShape.runs ⟨i, f, false⟩) ++ t).head? ≠ some 'S' := by
      rw [ne_eq, Spelled.head?_eq_some_iff ⟨hv, t, rfl, ht⟩ (by decide) (by decide), NumberShape.runs]
      split <;> split <;> simp [Run.times]
    have hn : spell [] ++ (spell (NumberShape.runs ⟨i, f, false⟩) ++ t) = spell (NumberShape.runs ⟨i, f, false⟩) ++ t := rfl
    rw [if_neg Bool.false_ne_true, hn, unsigned, if_neg hS, hdigits, Option.bind_some]
    dsimp only
    rw [ht, decide_eq_false hS]
    rfl

-- The picture of a type does not show a number that is zero, which would not be too long.
theorem counted_runs (type : FieldType) :
    counted type (countLengths type.runs) = counted type (type.numbers.map Text.digitCount) := by
  cases type
  case text => rfl
  case number storage shape =>
    have hzero : decide (maxDigits < Text.digitCount 0) = false := rfl
    have hcount (c : Char) (n : Nat) : (Run.times c n).count.map List.length = some (Text.digitCount n) := rfl
    simp only [FieldType.runs, NumberShape.runs, FieldType.numbers, counted, countLengths]
    by_cases hi : shape.intDigits = 0 <;> by_cases hf : shape.fracDigits = 0 <;> cases shape.signed <;>
      simp [hi, hf, hzero, hcount, List.find?_cons]

theorem classify_describe (hp : type.isEdited = false) (hd : type.HasDigits) :
    classify type.describe = counted type (type.numbers.map Text.digitCount) := by
  rw [←counted_runs]
  cases type
  case text length edited =>
    have he : edited = false := hp
    subst he
    have ht : total (FieldType.runs (.text length false)) = length := Run.size_times 'X' length
    have hc := classify_spell (FieldType.isValid_runs (.text length false)) (FieldType.runs_ne_nil hd) rfl
    rw [ht] at hc
    rw [FieldType.describe_eq hp]
    exact (congrArg classify (List.append_nil _)).trans hc
  case number storage shape =>
    have h := FieldType.spelled_describe hp hd
    obtain ⟨t, he, ht⟩ := h.text
    have hs : storage? (FieldType.shownUsage (.number storage shape)) = .ok storage := by cases storage <;> rfl
    rw [←h.lengths]
    exact classify_of_number? (he ▸ number?_runs hd ht) hs

-- One symbol more than the greatest count of so many digits.
def longRuns (width : Nat) : List Run :=
  [.times 'X' (10 ^ width - 1), ⟨'X', none⟩]

theorem total_longRuns (width : Nat) : total (longRuns width) = 10 ^ width :=
  (congrArg (· + 1) (Run.size_times 'X' (10 ^ width - 1))).trans (Nat.sub_add_cancel (Nat.pow_pos (by decide)))

theorem countLengths_longRuns {width : Nat} (h : 0 < width) : ∀ n ∈ countLengths (longRuns width), n ≤ width := by
  have hlt : 10 ^ width - 1 < 10 ^ width := Nat.sub_lt (Nat.pow_pos (by decide)) Nat.one_pos
  exact List.forall_mem_singleton.mpr ((Text.digitCount_le_iff h).mpr hlt)

theorem classify_longRuns : classify (spell (longRuns maxDigits)) = .ok (.text (10 ^ maxDigits) false) := by
  have hv : (longRuns maxDigits).all Run.isValid := by
    rw [longRuns, List.all_cons, Run.isValid_times rfl]
    rfl
  rw [classify_spell hv (List.cons_ne_nil _ _) rfl, total_longRuns]
  exact counted_eq_ok_iff.mpr (countLengths_longRuns (by decide))

-- One symbol, counted with so many zeros in front of the one.
def paddedRun (width : Nat) : Run :=
  ⟨'X', some (List.replicate width '0' ++ ['1'])⟩

theorem isValid_paddedRun (width : Nat) : [paddedRun width].all Run.isValid := by
  have h0 : isDecimalDigit '0' := rfl
  have h1 : isDecimalDigit '1' := rfl
  have hX : isCounted 'X' := rfl
  simp [paddedRun, Run.isValid, h0, h1, hX]

theorem size_paddedRun (width : Nat) : (paddedRun width).size = 1 :=
  Decimal.toNat_zeros width ['1']

theorem spelled_paddedRun (width : Nat) : Spelled [paddedRun width] none (tidy (spell [paddedRun width])) := by
  have h : Spelled [paddedRun width] none (spell [paddedRun width]) :=
    ⟨isValid_paddedRun width, [], (List.append_nil _).symm, rfl⟩
  rwa [h.tidy_eq (List.cons_ne_nil _ _)]

theorem classify_paddedRun (width : Nat) : classify (spell [paddedRun width]) = counted (.text 1 false) [width + 1] := by
  have hl : countLengths [paddedRun width] = [width + 1] := by simp [countLengths, paddedRun]
  have ht : total [paddedRun width] = 1 := size_paddedRun width
  rw [classify_spell (isValid_paddedRun width) (List.cons_ne_nil _ _) rfl, hl, ht]

-- A picture that is no edited one is written with runs and a usage. The picture that describes its type stands for the
-- type too, and so does every picture of the same symbols in other runs, with the same usage, unless a count in it is
-- too long.
theorem classify_of_symbols (h : classify p = .ok type) (hp : type.isEdited = false) :
    (type.HasDigits → classify type.describe = counted type (type.numbers.map Text.digitCount)) ∧
    (∃ rs usage, Spelled rs usage (tidy p)) ∧
    ∀ rs usage, Spelled rs usage (tidy p) → ∀ rs', rs'.all Run.isValid → expand rs' = expand rs →
      (∃ q, Spelled rs' usage (tidy q)) ∧
      ∀ q, Spelled rs' usage (tidy q) → classify q = counted type (countLengths rs') := by
  refine ⟨classify_describe hp, exists_spelled h hp, fun rs usage hs rs' hr he => ⟨?_, fun q hq => ?_⟩⟩
  case refine_1 =>
    obtain ⟨t, -, ht⟩ := hs.text
    have hq : Spelled rs' usage (spell rs' ++ t) := ⟨hr, t, rfl, ht⟩
    exact ⟨_, (hq.tidy_eq ((eq_nil_congr he).not.mpr (hs.ne_nil h hp))).symm ▸ hq⟩
  case refine_2 =>
    rw [←hq.lengths]
    exact Regrouped.classify ⟨rs, rs', hs, hq, he.symm⟩ h hp

-- Three digits and two, some of them counted and some written out.
def packedRuns : List Run :=
  [⟨'S', none⟩, ⟨'9', some ['3']⟩, ⟨'V', none⟩, ⟨'9', none⟩, ⟨'9', none⟩]

def packedOthers : List Run :=
  [⟨'S', none⟩, ⟨'9', none⟩, ⟨'9', none⟩, ⟨'9', none⟩, ⟨'V', none⟩, ⟨'9', some ['0', '0', '2']⟩]

theorem packed_regrouped : classify "s9(3)v99 comp-3".toList = .ok (.number .packed ⟨3, 2, true⟩) ∧
    classify (FieldType.describe (.number .packed ⟨3, 2, true⟩)) = .ok (.number .packed ⟨3, 2, true⟩) ∧
    classify "S999V9(002) COMP-3".toList = .ok (.number .packed ⟨3, 2, true⟩) := by
  have h : classify "s9(3)v99 comp-3".toList = .ok (.number .packed ⟨3, 2, true⟩) := by decide +kernel
  obtain ⟨hd, -, hr⟩ := classify_of_symbols h rfl
  have hs : Spelled packedRuns (some "COMP-3".toList) (tidy "s9(3)v99 comp-3".toList) :=
    ⟨rfl, " COMP-3".toList, by decide +kernel, rfl⟩
  have hq : Spelled packedOthers (some "COMP-3".toList) (tidy "S999V9(002) COMP-3".toList) :=
    ⟨rfl, " COMP-3".toList, by decide +kernel, rfl⟩
  exact ⟨h, hd (Nat.succ_pos 4), (hr _ _ hs packedOthers rfl (by decide +kernel)).right _ hq⟩

-- A text of ten to the power of that many characters is not what its description stands for, and one symbol may have a
-- count that is too long.
theorem not_every_picture_corresponds :
    ¬(∀ p type, classify p = .ok type → type.isEdited = false → type.HasDigits → classify type.describe = .ok type) ∧
    ¬(∀ p type rs usage, classify p = .ok type → type.isEdited = false → Spelled rs usage (tidy p) →
      ∀ q rs', Spelled rs' usage (tidy q) → expand rs' = expand rs → classify q = .ok type) := by
  constructor
  case left =>
    intro hall
    have hd := hall _ _ classify_longRuns rfl trivial
    rw [@classify_describe (.text (10 ^ maxDigits) false) rfl trivial, counted_eq_ok_iff] at hd
    have hl := hd _ (List.mem_singleton_self _)
    have hlong := Text.digitCount_mul_pow Nat.one_pos maxDigits
    rw [Nat.one_mul] at hlong
    have := Text.digitCount_pos 1
    omega
  case right =>
    intro hall
    have hone : classify ['X'] = .ok (.text 1 false) := by decide +kernel
    have hs : Spelled [⟨'X', none⟩] none (tidy ['X']) := ⟨rfl, [], by decide +kernel, rfl⟩
    have he : expand [paddedRun maxDigits] = expand [⟨'X', none⟩] := by
      have hp : (paddedRun maxDigits).expand = [⟨'X', none⟩] := by
        rw [Run.expand, size_paddedRun]
        rfl
      rw [expand_cons, hp]
      rfl
    have hq := hall _ _ _ _ hone rfl hs _ _ (spelled_paddedRun maxDigits) he
    rw [classify_paddedRun, counted_eq_ok_iff, List.forall_mem_singleton] at hq
    omega

end Picture
end Copybook
