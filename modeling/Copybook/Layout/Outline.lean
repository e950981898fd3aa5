import Copybook.Source.Declaration

/-!
Declarations as the outline that their levels give: an item holds the items after it, as long as their
levels are greater than its own.
-/

namespace Copybook

inductive Outline
  | item (declaration : Declaration) (members : List Outline)
  deriving Repr

namespace Outline

def declaration : Outline → Declaration
  | item declaration _ => declaration

def ofDeclarations : List Declaration → List Outline
  | [] => []
  | d :: ds =>
    item d (ofDeclarations (ds.takeWhile fun e => d.level < e.level)) ::
      ofDeclarations (ds.dropWhile fun e => d.level < e.level)
termination_by ds => ds.length
decreasing_by
  · have := (List.takeWhile_sublist (fun e => decide (d.level < e.level)) (l := ds)).length_le
    simp; omega
  · have := (List.dropWhile_sublist (fun e => decide (d.level < e.level)) (l := ds)).length_le
    simp; omega

mutual

-- The declarations of an outline, an item before its members.
def flatten : Outline → List Declaration
  | item d members => d :: flattenAll members

def flattenAll : List Outline → List Declaration
  | [] => []
  | o :: os => o.flatten ++ flattenAll os

end

theorem flattenAll_ofDeclarations (ds : List Declaration) : flattenAll (ofDeclarations ds) = ds := by
  fun_induction ofDeclarations ds with
  | case1 => rfl
  | case2 d ds ih₁ ih₂ => simp [flattenAll, flatten, ih₁, ih₂]

end Outline

end Copybook
