/-!
Text and bytes as lists, which every other module speaks about.
-/

namespace Copybook

-- Powers and sums of numbers are those of the core library, whatever else is imported.
attribute [default_instance high + 1] instPowNat
instance (priority := high) natPow : Pow Nat Nat := instPowNat
instance (priority := high) intPow : Pow Int Nat := instPowNat
instance (priority := high) natZero : Zero Nat := Zero.ofOfNat0

abbrev Text := List Char

abbrev Bytes := List UInt8

namespace Text

-- Drops the longest run at the end whose characters all satisfy `p`.
def dropRight (p : Char → Bool) (s : Text) : Text :=
  (s.reverse.dropWhile p).reverse

@[simp]
theorem dropRight_nil (p : Char → Bool) : dropRight p [] = [] :=
  rfl

theorem dropRight_concat_of_neg {p : Char → Bool} {c : Char} (s : Text) (h : p c = false) :
    dropRight p (s ++ [c]) = s ++ [c] := by
  simp [dropRight, h]

theorem dropRight_concat_of_pos {p : Char → Bool} {c : Char} (s : Text) (h : p c = true) :
    dropRight p (s ++ [c]) = dropRight p s := by
  simp [dropRight, h]

-- The pieces between the characters `c`, one more than there are such characters.
def splitOn (c : Char) : Text → List Text
  | [] => [[]]
  | d :: s =>
    match splitOn c s with
    | [] => [[d]]
    | piece :: pieces => if d = c then [] :: piece :: pieces else (d :: piece) :: pieces

theorem splitOn_ne_nil (c : Char) (s : Text) : splitOn c s ≠ [] := by
  cases s with
  | nil => simp [splitOn]
  | cons d s =>
    rw [splitOn]
    split
    · simp
    · split <;> simp

-- The texts one after another with `separator` between neighbours.
def join (separator : Text) : List Text → Text
  | [] => []
  | [s] => s
  | s :: t :: rest => s ++ separator ++ join separator (t :: rest)

-- What precedes the first `c` and what follows it.
def cutAt? (c : Char) : Text → Option (Text × Text)
  | [] => none
  | d :: s => if d = c then some ([], s) else (cutAt? c s).map fun (l, r) => (d :: l, r)

-- Every `from` replaced by `to`.
def replaceChar (old new : Char) (s : Text) : Text :=
  s.map fun c => if c = old then new else c

-- Filled on the left with `c` up to `width` characters.
def padLeft (c : Char) (width : Nat) (s : Text) : Text :=
  List.replicate (width - s.length) c ++ s

-- Filled on the right with `c` up to `width` characters.
def padRight (c : Char) (width : Nat) (s : Text) : Text :=
  s ++ List.replicate (width - s.length) c

end Text

theorem toNat_of_isAlphanum {c : Char} (h : c.isAlphanum = true) : 0x30 ≤ c.toNat ∧ c.toNat < 0x7f := by
  have h : (decide (c.val ≥ 65 ∧ c.val ≤ 90) || (c.val ≥ 97 && c.val ≤ 122) || (c.val ≥ 48 && c.val ≤ 57)) = true := h
  have hn : c.toNat = c.val.toNat := rfl
  simp only [Bool.or_eq_true, Bool.and_eq_true, decide_eq_true_eq, ge_iff_le, UInt32.le_iff_toNat_le] at h
  simp at h
  omega

-- A set of characters given by ranges of code points, both ends included.
abbrev CharRanges := List (Nat × Nat)

def CharRanges.contains (ranges : CharRanges) (c : Char) : Bool :=
  ranges.any fun (low, high) => low ≤ c.toNat && c.toNat ≤ high

end Copybook
