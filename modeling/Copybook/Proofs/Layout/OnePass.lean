import Copybook.Proofs.Layout.Placement

/-!
Laying out a record in one pass over its declarations. Groups that may still get members stand on a stack, each with
what has been laid out around it, and a group is closed by the first declaration after it that is no member of it. That
comes to the same as laying out the outline of the declarations.
-/

namespace Copybook

namespace Layout

open Noting

-- What has been laid out of some siblings, the nearest first, and where the next one starts.
structure Siblings where
  earlier : List Node := []
  cursor : Nat := 0

-- A group that may get more members, where it starts, and the siblings that it comes after.
structure Opened where
  declaration : Declaration
  offset : Nat
  around : Siblings

-- The open groups, the innermost first, the members of the innermost one, and the last declaration if it has a picture.
structure Progress where
  opened : List Opened := []
  inside : Siblings := {}
  last : Option Declaration := none

namespace Siblings

def put (s : Siblings) (d : Declaration) (n : Node) : Siblings :=
  ⟨n :: s.earlier, advance s.cursor d n⟩

def attach (s : Siblings) (d : Declaration) (n : Node) : Placing Siblings := do
  let target ← target? s.earlier d
  compare d target n
  return s.put d n

-- The group after its siblings, `s` being its members.
def close (codec : Codec) (s : Siblings) (o : Opened) : Placing Siblings := do
  let d := o.declaration
  let nodes := s.earlier.reverse
  let length := s.cursor - o.offset
  if nodes.isEmpty then note (.emptyGroup d.name)
  let bytes ← initial codec d (.text length false)
  o.around.attach d (occurring d (.group ⟨d.name, o.offset, d.redefines, d.value, bytes⟩ length nodes))

-- All open groups closed, the innermost first.
def closeAll (codec : Codec) (s : Siblings) : List Opened → Placing Siblings
  | [] => return s
  | o :: os => do (← s.close codec o).closeAll codec os

-- The groups closed that an item of this level is no member of.
def closeFor (codec : Codec) (level : Nat) (s : Siblings) : List Opened → Placing (List Opened × Siblings)
  | [] => return ([], s)
  | o :: os =>
    if level ≤ o.declaration.level then do (← s.close codec o).closeFor codec level os else return (o :: os, s)

end Siblings

namespace Progress

-- Only a group holds what comes after it.
def check (p : Progress) (d : Declaration) : Placing Unit :=
  match p.last with
  | some field => if field.level < d.level then refuse d (.heldByField field.name d.name) else return
  | none => return

def add (codec : Codec) (p : Progress) (d : Declaration) : Placing Progress := do
  p.check d
  let (opened, inside) ← p.inside.closeFor codec d.level p.opened
  let target ← target? inside.earlier d
  let offset := (target.map Node.offset).getD inside.cursor
  match d.picture with
  | none => return ⟨⟨d, offset, inside⟩ :: opened, ⟨[], offset⟩, none⟩
  | some format =>
    let type ← fieldType d format
    let bytes ← initial codec d type
    let inside ← inside.attach d (occurring d (.field ⟨d.name, offset, d.redefines, d.value, bytes⟩ type))
    return ⟨opened, inside, some d⟩

def addAll (codec : Codec) (p : Progress) : List Declaration → Placing Siblings
  | [] => p.inside.closeAll codec p.opened
  | d :: ds => do (← p.add codec d).addAll codec ds

end Progress

-- The layout of the record that the declarations describe, by one pass over them.
def inOnePass (declarations : List Declaration) (codec : Codec) : Placing Layout := do
  let s ← Progress.addAll codec {} declarations
  return { length := s.cursor, members := s.earlier.reverse, declarations, codec }

-- Siblings with what an item comes to after them.
def Siblings.place (codec : Codec) (s : Siblings) (o : Outline) : Placing Siblings := do
  let n ← Layout.place codec s.earlier s.cursor o
  return s.put o.declaration n

def Siblings.placeAll (codec : Codec) (s : Siblings) (os : List Outline) : Placing Siblings := do
  let (nodes, stop) ← Layout.placeAll codec s.earlier s.cursor os
  return ⟨nodes.reverse ++ s.earlier, stop⟩

theorem refuse_bind {α β : Type} (d : Declaration) (fault : SourceFault) (f : α → Placing β) :
    refuse d fault >>= f = refuse d fault :=
  rfl

-- A target is there or the declaration is refused, and nothing else comes of looking for it.
theorem target?_eq (earlier : List Node) (d : Declaration) :
    (∃ t, target? earlier d = pure t) ∨ ∃ fault, target? earlier d = refuse d fault := by
  unfold target?
  split
  case _ => exact .inl ⟨none, rfl⟩
  case _ name _ =>
    split
    case _ t _ => exact .inl ⟨some t, rfl⟩
    case _ => exact .inr ⟨_, rfl⟩

namespace Siblings

variable {codec : Codec} {s : Siblings} {d : Declaration} {t : Option Node}

theorem placeAll_nil (codec : Codec) (s : Siblings) : s.placeAll codec [] = pure s := by
  rw [placeAll, Layout.placeAll]
  rfl

theorem placeAll_cons (codec : Codec) (s : Siblings) (o : Outline) (os : List Outline) :
    s.placeAll codec (o :: os) = (do (← s.place codec o).placeAll codec os) := by
  simp only [placeAll, place, Layout.placeAll, put, bind_assoc, pure_bind, List.reverse_cons, List.append_assoc,
    List.cons_append, List.nil_append]

theorem attach_eq (ht : target? s.earlier d = pure t) (n : Node) :
    s.attach d n = (do compare d t n; return s.put d n) := by
  rw [attach, ht, pure_bind]

-- An item without a picture is laid out by closing it when its members have been.
theorem place_group (ht : target? s.earlier d = pure t) (hp : d.picture = none) (members : List Outline) :
    s.place codec (.item d members) = (do
      let offset := (t.map Node.offset).getD s.cursor
      (← placeAll codec ⟨[], offset⟩ members).close codec ⟨d, offset, s⟩) := by
  simp only [place, Layout.place, ht, hp, placeAll, close, attach_eq ht, bind_assoc, pure_bind, List.append_nil,
    List.reverse_reverse]
  refine bind_congr fun (nodes, stop) => ?_
  cases nodes.isEmpty <;> simp only [if_true, Bool.false_eq_true, if_false, bind_assoc, pure_bind]
  all_goals rfl

-- An item with a picture is laid out where it stands, and has no members.
theorem place_field {format : Text} (ht : target? s.earlier d = pure t) (hp : d.picture = some format)
    (members : List Outline) : s.place codec (.item d members) = (do
      let offset := (t.map Node.offset).getD s.cursor
      let type ← fieldType d format
      let bytes ← initial codec d type
      let s ← s.attach d (occurring d (.field ⟨d.name, offset, d.redefines, d.value, bytes⟩ type))
      match members with
      | [] => return s
      | m :: _ => refuse m.declaration (.heldByField d.name m.declaration.name)) := by
  simp only [place, Layout.place, ht, hp, attach_eq ht, bind_assoc, pure_bind]
  cases members <;> simp only [pure_bind, refuse_bind]
  all_goals rfl

end Siblings

namespace Progress

variable {codec : Codec} {opened : List Opened} {s : Siblings} {d : Declaration} {ds rest : List Declaration}

-- A group is closed before anything else comes of a declaration that is no member of it.
theorem addAll_opened {o : Opened} (h : ∀ e ∈ rest.head?, e.level ≤ o.declaration.level) :
    addAll codec ⟨o :: opened, s, none⟩ rest = (do addAll codec ⟨opened, ← s.close codec o, none⟩ rest) := by
  cases rest
  case nil => rfl
  case cons e rest =>
    have hl : e.level ≤ o.declaration.level := h e rfl
    simp only [addAll, add, check, Siblings.closeFor, if_pos hl, bind_assoc, pure_bind]

-- A declaration that no field is to hold is added as if the field were not the last one.
theorem addAll_last (h : ∀ e ∈ rest.head?, e.level ≤ d.level) :
    addAll codec ⟨opened, s, some d⟩ rest = addAll codec ⟨opened, s, none⟩ rest := by
  cases rest
  case nil => rfl
  case cons e rest =>
    have hl : ¬d.level < e.level := Nat.not_lt.mpr (h e rfl)
    simp only [addAll, add, check, if_neg hl]

theorem addAll_held {e : Declaration} (h : d.level < e.level) :
    addAll codec ⟨opened, s, some d⟩ (e :: rest) = refuse e (.heldByField d.name e.name) := by
  simp only [addAll, add, check, if_pos h, refuse_bind]

theorem closeFor_of_lt {level : Nat} (h : ∀ o ∈ opened.head?, o.declaration.level < level) :
    s.closeFor codec level opened = pure (opened, s) := by
  cases opened
  case nil => rfl
  case cons o opened => exact if_neg (Nat.not_le.mpr (h o rfl))

-- What comes after the members of an item is not deeper than the item.
theorem level_le_of_head? {e : Declaration} (hr : ∀ e ∈ rest.head?, e.level ≤ d.level)
    (he : e ∈ ((ds.dropWhile fun e => d.level < e.level) ++ rest).head?) : e.level ≤ d.level := by
  have hd := List.head?_dropWhile_not (fun e : Declaration => decide (d.level < e.level)) ds
  cases ho : ds.dropWhile fun e => d.level < e.level <;> rw [ho] at he hd
  case nil => exact hr e he
  case cons e' others =>
    cases he
    simpa using hd

-- Declarations that are deeper than the open groups, and not less deep than what comes after them, come to the same in
-- the innermost group as their outline. The groups among them are closed by what comes after them, if not before.
theorem addAll_append (ho : ∀ o ∈ opened.head?, ∀ e ∈ ds, o.declaration.level < e.level)
    (hr : ∀ e ∈ rest.head?, ∀ d ∈ ds, e.level ≤ d.level) :
    addAll codec ⟨opened, s, none⟩ (ds ++ rest) =
      (do addAll codec ⟨opened, ← s.placeAll codec (Outline.ofDeclarations ds), none⟩ rest) := by
  fun_induction Outline.ofDeclarations ds generalizing opened s rest
  case case1 => rw [Siblings.placeAll_nil, pure_bind, List.nil_append]
  case case2 d ds hm hs =>
    set members := ds.takeWhile fun e => d.level < e.level
    set others := ds.dropWhile fun e => d.level < e.level
    have hsplit : ds = members ++ others := List.takeWhile_append_dropWhile.symm
    have hdeep : ∀ e ∈ members, d.level < e.level := fun e he => by
      simpa using List.mem_takeWhile_imp he
    have hnext : ∀ e ∈ (others ++ rest).head?, e.level ≤ d.level := fun e =>
      level_le_of_head? fun e he => hr e he d List.mem_cons_self
    rw [Siblings.placeAll_cons, bind_assoc]
    simp only [←hs (fun o h e he => ho o h e (by simp [hsplit, he]))
      (fun e h d' hd' => hr e h d' (by simp [hsplit, hd']))]
    rw [List.cons_append, hsplit, List.append_assoc, addAll, add, check]
    simp only [closeFor_of_lt fun o h => ho o h d List.mem_cons_self, pure_bind]
    rcases target?_eq s.earlier d with ⟨t, ht⟩ | ⟨fault, ht⟩
    case inr => simp only [ht, refuse_bind, Siblings.place, Layout.place]
    case inl =>
      cases hp : d.picture
      case none =>
        rw [Siblings.place_group ht hp]
        simp only [ht, pure_bind, bind_assoc]
        rw [hm]
        · exact bind_congr fun _ => addAll_opened hnext
        · rintro o ⟨⟩ e he
          exact hdeep e he
        · exact fun e he d' hd' => (hnext e he).trans (hdeep d' hd').le
      case some format =>
        rw [Siblings.place_field ht hp]
        simp only [ht, pure_bind, bind_assoc]
        refine bind_congr fun type => bind_congr fun bytes => bind_congr fun s' => ?_
        cases hmember : members
        case nil => rw [Outline.ofDeclarations, pure_bind, List.nil_append, addAll_last hnext]
        case cons m ms =>
          rw [Outline.ofDeclarations, List.cons_append, addAll_held (hdeep m (hmember ▸ List.mem_cons_self))]
          rfl

end Progress

-- One pass over the declarations comes to the layout of their outline, with the same notices, or to the same fault.
theorem inOnePass_eq (declarations : List Declaration) (codec : Codec) :
    inOnePass declarations codec = ofDeclarations declarations codec := by
  have h : Progress.addAll codec {} (declarations ++ []) = _ := Progress.addAll_append nofun nofun
  rw [List.append_nil] at h
  simp only [inOnePass, ofDeclarations, h, Siblings.placeAll, Progress.addAll, Siblings.closeAll, bind_assoc, pure_bind,
    List.append_nil, List.reverse_reverse]

end Layout
end Copybook
