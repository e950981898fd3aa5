import Mathlib
import Copybook.Bytes

/-!
Bytes written over a span of as many bytes, seen position by position.
-/

namespace Copybook.Bytes

-- No position is in both of two spans.
def Apart (start stop start' stop' : Nat) : Prop :=
  ∀ i, start ≤ i → i < stop → ¬(start' ≤ i ∧ i < stop')

variable {b new new' : Bytes} {start stop start' stop' : Nat}

theorem Apart.symm (h : Apart start stop start' stop') : Apart start' stop' start stop :=
  fun i hs ht hi => h i hi.left hi.right ⟨hs, ht⟩

theorem length_splice_of_span (hn : start + new.length = stop) (h : stop ≤ b.length) :
    (splice b start stop new).length = b.length := by
  subst hn
  exact length_splice h

-- The span starts in the bytes, and may reach past their end.
theorem getElem?_splice_of_le (hn : start + new.length = stop) (h : start ≤ b.length) (i : Nat) :
    (splice b start stop new)[i]? = if start ≤ i ∧ i < stop then new[i - start]? else b[i]? := by
  have hl : (b.take start).length = start := by
    rw [List.length_take]
    omega
  rw [splice, Nat.max_eq_right (by omega), List.append_assoc]
  by_cases hs : i < start
  case pos => rw [List.getElem?_append_left (by omega), List.getElem?_take_of_lt hs, if_neg (by omega)]
  case neg =>
    rw [List.getElem?_append_right (by omega), hl]
    by_cases ht : i < stop
    case pos => rw [List.getElem?_append_left (by omega), if_pos (by omega)]
    case neg =>
      rw [List.getElem?_append_right (by omega), List.getElem?_drop, if_neg (by omega)]
      congr 1
      omega

theorem getElem?_splice (hn : start + new.length = stop) (h : stop ≤ b.length) (i : Nat) :
    (splice b start stop new)[i]? = if start ≤ i ∧ i < stop then new[i - start]? else b[i]? :=
  getElem?_splice_of_le hn (by omega) i

-- Spans that are apart can be written in any order.
theorem splice_comm (hn : start + new.length = stop) (h : stop ≤ b.length) (hn' : start' + new'.length = stop')
    (h' : stop' ≤ b.length) (ha : Apart start stop start' stop') :
    splice (splice b start stop new) start' stop' new' = splice (splice b start' stop' new') start stop new := by
  refine List.ext_getElem? fun i => ?_
  rw [getElem?_splice hn' (by rwa [length_splice_of_span hn h]), getElem?_splice hn h,
    getElem?_splice hn (by rwa [length_splice_of_span hn' h']), getElem?_splice hn' h']
  by_cases hi : start ≤ i ∧ i < stop
  case pos => rw [if_neg (ha i hi.left hi.right), if_pos hi, if_pos hi]
  case neg => rw [if_neg hi, if_neg hi]

-- What has been written to a span does not matter once the span is written again.
theorem splice_splice (hn : start + new.length = stop) (h : stop ≤ b.length) (hn' : start + new'.length = stop) :
    splice (splice b start stop new) start stop new' = splice b start stop new' := by
  refine List.ext_getElem? fun i => ?_
  rw [getElem?_splice hn' (by rwa [length_splice_of_span hn h]), getElem?_splice hn h, getElem?_splice hn' h]
  split <;> rfl

theorem getElem?_slice (b : Bytes) (start stop i : Nat) :
    (slice b start stop)[i]? = if i < stop - start then b[start + i]? else none := by
  rw [slice, List.getElem?_take, List.getElem?_drop]

theorem slice_splice_self (hn : start + new.length = stop) (h : stop ≤ b.length) :
    slice (splice b start stop new) start stop = new := by
  subst hn
  exact slice_splice _ (by omega)

theorem slice_splice_of_apart (hn : start + new.length = stop) (h : stop ≤ b.length)
    (ha : Apart start stop start' stop') : slice (splice b start stop new) start' stop' = slice b start' stop' := by
  refine List.ext_getElem? fun i => ?_
  rw [getElem?_slice, getElem?_slice]
  by_cases hi : i < stop' - start'
  case pos =>
    have hi' : ¬(start ≤ start' + i ∧ start' + i < stop) := fun hs => ha _ hs.left hs.right (by omega)
    rw [getElem?_splice hn h, if_neg hi']
  case neg => rw [if_neg hi, if_neg hi]

end Copybook.Bytes
