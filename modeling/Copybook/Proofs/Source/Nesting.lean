import Copybook.Layout.Outline
import Copybook.Proofs.Except

/-!
The items that a declaration names as enclosing it are those that hold it in the outline: what is still open when a
statement is read is exactly the way from the outermost item to the one that holds it, innermost first.
-/

namespace Copybook

namespace Source

variable {n : Nesting} {d : Declaration} {ds : List Declaration} {level level' : Nat}

-- What a deeper item has closed, a shallower one would have closed as well.
theorem Open.around_around (items : Open) (h : level ≤ level') :
    (items.around level').around level = items.around level := by
  induction items
  case nil => rfl
  case cons item items hi =>
    by_cases hl : level' ≤ item.1
    case pos => simpa [Open.around, hl, h.trans hl] using hi
    case neg => simp [Open.around, hl]

theorem Open.around_eq_self {items : Open} (h : ∀ item ∈ items, item.1 < level) : items.around level = items := by
  cases items
  case nil => rfl
  case cons item items => simp [Open.around, h item]

namespace Nesting

theorem around_around (n : Nesting) (h : level ≤ level') : (n.around level').around level = n.around level := by
  simp [around, Open.around_around _ h]

-- An item is closed by the next one of its level.
theorem around_push (n : Nesting) (h : level ≤ d.level) : (n.push d).around level = n.around level := by
  simp only [around, push, Nesting.mk.injEq]
  refine ⟨by simp [Open.around, h], ?_, ?_⟩ <;> split <;> simp [Open.around, h]

-- Everything that is open is of a smaller level.
def Below (n : Nesting) (level : Nat) : Prop :=
  (∀ item ∈ n.items, item.1 < level) ∧ (∀ item ∈ n.occurring, item.1 < level) ∧
    ∀ item ∈ n.redefining, item.1 < level

theorem Below.push (h : n.Below level) (hd : d.level < level) : (n.push d).Below level := by
  have concat {items : Open} (h : ∀ item ∈ items, item.1 < level) :
      ∀ item ∈ (d.level, d.name) :: items, item.1 < level :=
    List.forall_mem_cons.mpr ⟨hd, h⟩
  have ⟨hi, ho, hr⟩ := h
  refine ⟨concat hi, ?_, ?_⟩ <;> simp only [Nesting.push] <;> split
  · exact concat ho
  · exact ho
  · exact concat hr
  · exact hr

theorem Below.around_eq_self (h : n.Below level) : n.around level = n := by
  simp [around, Open.around_eq_self h.left, Open.around_eq_self h.right.left, Open.around_eq_self h.right.right]

-- What is open within some items, given by their declarations, the innermost first.
def within (around : List Declaration) : Nesting :=
  around.foldr (fun d n => n.push d) {}

theorem within_cons (a : Declaration) (around : List Declaration) : within (a :: around) = (within around).push a :=
  rfl

theorem within_below {around : List Declaration} (h : ∀ a ∈ around, a.level < level) : (within around).Below level := by
  induction around
  case nil => exact ⟨nofun, nofun, nofun⟩
  case cons a as hi =>
    have ⟨ha, h⟩ := List.forall_mem_cons.mp h
    exact (hi h).push ha

-- A group with occurrences, as declarations are read.
def isOccurring (d : Declaration) : Bool :=
  d.occurs.isSome && d.picture.isNone

theorem within_items (around : List Declaration) :
    (within around).items.nearest? = around.head?.map (·.name) := by
  cases around <;> rfl

theorem within_occurring (around : List Declaration) :
    (within around).occurring.nearest? = (around.find? isOccurring).map (·.name) := by
  induction around
  case nil => rfl
  case cons a as hi =>
    rw [within_cons, push, List.find?_cons, ←isOccurring]
    cases isOccurring a
    case false => exact hi
    case true => rfl

theorem within_redefining (around : List Declaration) :
    (within around).redefining.nearest? = (around.find? (·.redefines.isSome)).map (·.name) := by
  induction around
  case nil => rfl
  case cons a as hi =>
    rw [within_cons, push, List.find?_cons]
    cases a.redefines.isSome
    case false => exact hi
    case true => rfl

-- Nothing outside is closed by an item that everything around it encloses.
theorem around_within {around : List Declaration} (h : ∀ a ∈ around, a.level < level) :
    (within around).around level = within around :=
  (within_below h).around_eq_self

-- What is open after some declarations.
def after (n : Nesting) (ds : List Declaration) : Nesting :=
  ds.foldl (fun n d => (n.around d.level).push d) n

theorem around_after (h : ∀ d ∈ ds, level ≤ d.level) : (n.after ds).around level = n.around level := by
  induction ds generalizing n
  case nil => rfl
  case cons d ds hi =>
    have hd := h d (by simp)
    rw [after, List.foldl_cons, ←after, hi fun e he => h e (by simp [he]), around_push _ hd, around_around _ hd]

end Nesting

-- A declaration names the items of a nesting as the ones around it.
def IsIn (d : Declaration) (n : Nesting) : Prop :=
  d.parent = n.items.nearest? ∧ d.occursGroup = n.occurring.nearest? ∧ d.redefinesGroup = n.redefining.nearest?

-- Each declaration names the items that the ones before it have left open around it.
def Placed (n : Nesting) : List Declaration → Prop
  | [] => True
  | d :: ds => IsIn d (n.around d.level) ∧ Placed ((n.around d.level).push d) ds

theorem placed_append (ds es : List Declaration) : Placed n (ds ++ es) ↔ Placed n ds ∧ Placed (n.after ds) es := by
  induction ds generalizing n
  case nil => simp [Placed, Nesting.after]
  case cons d ds hi => simp [Placed, hi, Nesting.after, and_assoc]

theorem declarationsFrom_placed {lines : List Text} (h : declarationsFrom n lines = .ok ds) : Placed n ds := by
  induction lines generalizing n ds <;> simp only [declarationsFrom] at h
  case nil =>
    cases h
    trivial
  case cons line lines hi =>
    split at h
    case isTrue => exact hi h
    case isFalse =>
      have ⟨(level, name, c), _, h⟩ := bind_eq_ok_iff.mp h
      simp only at h
      split at h
      case isTrue => exact hi h
      case isFalse =>
        have ⟨_, h⟩ := check_eq_ok_iff.mp h
        have ⟨ds', hds, h⟩ := bind_eq_ok_iff.mp h
        cases h
        exact ⟨⟨rfl, rfl, rfl⟩, hi hds⟩

end Source

namespace Outline

open Source

mutual

-- The declarations of an outline in order, each with the ones of the items around it, the innermost first.
def parts (around : List Declaration) : Outline → List (Declaration × List Declaration)
  | item d members => (d, around) :: partsAll (d :: around) members

def partsAll (around : List Declaration) : List Outline → List (Declaration × List Declaration)
  | [] => []
  | o :: os => o.parts around ++ partsAll around os

end

mutual

theorem map_parts (o : Outline) (around : List Declaration) : (o.parts around).map (·.1) = o.flatten := by
  cases o
  case item d members => simp [parts, flatten, map_partsAll members]

theorem map_partsAll (os : List Outline) (around : List Declaration) :
    (partsAll around os).map (·.1) = flattenAll os := by
  cases os
  case nil => rfl
  case cons o os => simp [partsAll, flattenAll, map_parts o, map_partsAll os]

end

-- The first of some siblings finds open what is around all of them. So does each further one: whatever the siblings
-- before it have opened is of no smaller level, and it closes that again.
theorem isIn_of_placed {n : Nesting} {ds around : List Declaration} (h : Placed n ds)
    (hl : ∀ d ∈ ds, ∀ a ∈ around, a.level < d.level)
    (hn : ∀ d ∈ ds.head?, n.around d.level = .within around) :
    ∀ p ∈ partsAll around (ofDeclarations ds), IsIn p.1 (.within p.2) := by
  fun_induction ofDeclarations ds generalizing n around
  case case1 => simp [partsAll]
  case case2 d ds hm hs =>
    have hd := hn d (by simp)
    rw [Placed, hd] at h
    have h' := h.right
    rw [←List.takeWhile_append_dropWhile (p := fun e => decide (d.level < e.level)) (l := ds),
      placed_append] at h'
    have hdeep : ∀ e ∈ ds.takeWhile (fun e => decide (d.level < e.level)), ∀ a ∈ d :: around, a.level < e.level :=
      fun e he => List.forall_mem_cons.mpr
        ⟨by simpa using List.mem_takeWhile_imp he, hl e (by simp [(List.takeWhile_sublist _).mem he])⟩
    intro p hp
    simp only [partsAll, parts, List.cons_append, List.mem_cons, List.mem_append] at hp
    rcases hp with rfl | hp | hp
    case inl => exact h.left
    case inr.inl =>
      refine hm h'.left hdeep (fun e he => ?_) p hp
      exact Nesting.around_within (hdeep e (List.mem_of_mem_head? he))
    case inr.inr =>
      have hmem {e} (he : e ∈ ds.dropWhile fun e => decide (d.level < e.level)) : e ∈ d :: ds := by
        simp [(List.dropWhile_sublist _).mem he]
      refine hs h'.right (fun e he a ha => hl e (hmem he) a ha) (fun e he => ?_) p hp
      have hle : e.level ≤ d.level := by
        have := List.head?_dropWhile_not (fun e => decide (d.level < e.level)) ds
        rw [he] at this
        simpa using this
      rw [Nesting.around_after fun f hf => hle.trans (hdeep f hf d (by simp)).le, Nesting.around_push _ hle]
      exact Nesting.around_within (hl e (hmem (List.mem_of_mem_head? he)))

end Outline
end Copybook
