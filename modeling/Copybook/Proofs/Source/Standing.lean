import Copybook.Layout.Outline
import Mathlib.Data.List.TakeWhile

/-!
What encloses an item, by the levels alone: the nearest item before it of a smaller level, and what encloses that one.
The outline of the declarations has every item where this puts it, among the same siblings.
-/

namespace Copybook

-- An item with the names of its earlier siblings, the nearest first.
structure Sibling (α : Type) where
  item : α
  earlier : List Text

-- An item with the ones around it, the innermost first.
structure Descent (α : Type) where
  item : Sibling α
  around : List (Sibling α)

-- A declaration with those before it, the nearest first.
structure Standing where
  item : Declaration
  before : List Declaration
  deriving DecidableEq

namespace Standing

variable {d : Declaration} {ds before : List Declaration} {level : Nat} {s t : Standing} {outer : List Standing}

-- The items around one of that level, the innermost first: each is of a smaller level than what comes after it.
def around (level : Nat) : List Declaration → List Standing
  | [] => []
  | d :: before => if d.level < level then ⟨d, before⟩ :: around d.level before else around level before

def enclosing (s : Standing) : List Standing :=
  around s.item.level s.before

-- All declarations of a list, each of them with those that follow it there.
def each : List Declaration → List Standing
  | [] => []
  | d :: before => ⟨d, before⟩ :: each before

-- The items before that the same ones enclose, the nearest first.
def siblings (s : Standing) : List Standing :=
  (each s.before).filter (·.enclosing = s.enclosing)

-- No other item is meant where the name is used among the siblings.
def IsFirst (s : Standing) : Prop :=
  s.item.name ≠ fillerName ∧ ∀ t ∈ s.siblings, t.item.name ≠ s.item.name

instance (s : Standing) : Decidable s.IsFirst :=
  inferInstanceAs (Decidable (_ ∧ _))

-- The declarations in their order, each with those before it.
def after (before : List Declaration) : List Declaration → List Standing
  | [] => []
  | d :: ds => ⟨d, before⟩ :: after (d :: before) ds

def sibling (s : Standing) : Sibling Declaration :=
  ⟨s.item, s.siblings.map (·.item.name)⟩

def descent (s : Standing) : Descent Declaration :=
  ⟨s.sibling, s.enclosing.map sibling⟩

-- The names of the earlier items among those that `outer` encloses.
def names (before : List Declaration) (outer : List Standing) : List Text :=
  ((each before).filter (·.enclosing = outer)).map (·.item.name)

end Standing

namespace Outline

open Standing

mutual

-- The items of an outline in order, each with those around it there.
def descents (around : List (Sibling Declaration)) (earlier : List Text) : Outline → List (Descent Declaration)
  | item d members => ⟨⟨d, earlier⟩, around⟩ :: descentsAll (⟨d, earlier⟩ :: around) [] members

def descentsAll (around : List (Sibling Declaration)) (earlier : List Text) : List Outline → List (Descent Declaration)
  | [] => []
  | o :: os => o.descents around earlier ++ descentsAll around (o.declaration.name :: earlier) os

end

end Outline
end Copybook
