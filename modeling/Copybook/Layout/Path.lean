import Copybook.Layout.Node

/-!
Paths such as `STATES[1].STATE-NAME`: names separated by periods, each with the indexes of the occurrence it
means. A negative index counts from the end.
-/

namespace Copybook

-- A part of a path as it is written, with what it says.
structure PathPart where
  written : Text
  name : Text
  indexes : List Text
  deriving DecidableEq, Repr

-- Why a path leads nowhere.
inductive PathFault
  | notAPath (path : Text)
  | unknownName (name group : Text)
  | notAnArray (part : Text)
  | outOfRange (index array : Text)
  | digits (fault : DigitFault)
  deriving DecidableEq, Repr

namespace PathFault

def kind : PathFault → FaultKind
  | digits _ => .tooManyDigits
  | _ => .unknownField

def message : PathFault → Text
  | notAPath path => '\'' :: path ++ "' is not a path in this layout".toList
  | unknownName name group => '\'' :: name ++ "' is not a field of ".toList ++ group
  | notAnArray part => '\'' :: part ++ "' is not an OCCURS field".toList
  | outOfRange index array => "index ".toList ++ index ++ " is out of range for ".toList ++ array
  | digits fault => fault.message

end PathFault

namespace PathPart

-- Indexes in brackets, as they are written. `inside` holds what has been read of an index, last character
-- first.
def indexesFrom (inside : Option Text) : Text → Option (List Text)
  | [] => if inside.isNone then some [] else none
  | c :: s =>
    match inside with
    | none => if c = '[' then indexesFrom (some []) s else none
    | some read =>
      if isDecimalDigit c || (c == '-' && read.isEmpty) then indexesFrom (some (c :: read)) s
      else if c = ']' ∧ read.any isDecimalDigit then (indexesFrom none s).map (read.reverse :: ·)
      else none

def ofText? (written : Text) : Option PathPart := do
  let s := Text.strip written
  let name := s.takeWhile Source.isNameChar
  if name.isEmpty then none
  return ⟨written, name, ← indexesFrom none (s.dropWhile Source.isNameChar)⟩

def indexValue (index : Text) : Except DigitFault Int :=
  let (negative, digits) := Text.takeSign index
  (Text.readNat digits).map (Text.signed negative)

end PathPart

-- The position that an index means among `count` occurrences.
def position? (count : Nat) (index : Int) : Option Nat :=
  let position := if index < 0 then index + count else index
  if 0 ≤ position ∧ position < count then some position.toNat else none

theorem position?_lt {count k : Nat} {index : Int} (h : position? count index = some k) : k < count := by
  grind [position?]

namespace Node

-- A node, and how far the occurrence that is meant lies from its first one.
abbrev Located := Node × Nat

-- The element that the indexes lead to.
def atIndexes (part : Text) : Located → List Text → Except PathFault Located
  | found, [] => .ok found
  | (.array count element, shift), index :: indexes => do
    match position? count (← (PathPart.indexValue index).mapError .digits) with
    | some k => atIndexes part (element, shift + k * element.length) indexes
    | none => throw (.outOfRange index element.name)
  | _, _ :: _ => .error (.notAnArray part)

def isGroup : Node → Bool
  | group .. => true
  | _ => false

-- What the parts of `path` lead to.
def follow (path : Text) : Located → List Text → Except PathFault Located
  | found, [] => .ok found
  | (n, shift), written :: parts =>
    match PathPart.ofText? written with
    | none => .error (.notAPath path)
    | some part =>
      if !n.isGroup then .error (.notAPath path)
      else match n.lookup? (normalizeName part.name) with
        | none => .error (.unknownName part.name n.name)
        | some m => do
          let found ← atIndexes part.written (m, shift) part.indexes
          follow path found parts

end Node

namespace Layout

-- The node that a path leads to, and the offset of the occurrence that is meant.
def find (layout : Layout) (path : Text) : Except PathFault (Node × Nat) :=
  (Node.follow path (layout.root, 0) (Text.splitOn '.' path)).map fun (n, shift) => (n, n.offset + shift)

end Layout

end Copybook
