import Copybook.Source.Clause
import Copybook.Source.Fault
import Copybook.Source.Statement

/-!
Declarations: what a statement says about an item, and which earlier items enclose it. An item encloses the
items after it as long as their levels are greater than its own.
-/

namespace Copybook

-- Items of this name take space but cannot be addressed.
def fillerName : Text :=
  "FILLER".toList

-- Hyphens and low lines are the same in names.
def normalizeName (name : Text) : Text :=
  Text.replaceChar '-' '_' name

@[simp]
theorem normalizeName_normalizeName (name : Text) :
    normalizeName (normalizeName name) = normalizeName name := by
  simp only [normalizeName, Text.replaceChar, List.map_map]
  refine List.map_congr_left fun c _ => ?_
  by_cases h : c = '-' <;> simp [h]

-- What the clauses of a declaration say.
structure Clauses where
  redefines : Option Text
  value : Option Text
  occurs : Option Nat
  picture : Option Text
  deriving DecidableEq, Repr

-- An item with its nearest enclosing item, its nearest enclosing item with occurrences, and its nearest
-- enclosing item that redefines another.
structure Declaration where
  level : Nat
  name : Text
  picture : Option Text
  occurs : Option Nat
  redefines : Option Text
  value : Option Text
  parent : Option Text
  occursGroup : Option Text
  redefinesGroup : Option Text
  line : Text
  deriving DecidableEq, Repr

def Declaration.isFiller (d : Declaration) : Bool :=
  d.name == fillerName

namespace Source

-- Words that cannot be names: an item that begins with one has no name.
def clauseWords : List Text :=
  ["PIC".toList, "PICTURE".toList, "VALUE".toList, "OCCURS".toList, "REDEFINES".toList]

def isNameChar (c : Char) : Bool :=
  c.isAlphanum || c == '_' || c == '-'

-- The text up to the end of its line, which must be its last.
def onlyLine? (s : Text) : Option Text :=
  let line := s.takeWhile (· != '\n')
  let rest := s.dropWhile (· != '\n')
  if rest.isEmpty || rest == ['\n'] then some line else none

-- The level, the name, and the text of the clauses.
def header? (s : Text) : Option (Nat × Text × Text) := do
  let (digits, s) ← Clause.digits? s
  if 2 < digits.length then none
  let s ← Clause.blanks? s
  let name := s.takeWhile isNameChar
  if name.isEmpty then none
  let rest := s.dropWhile isNameChar
  let clauses ← if rest.isEmpty || rest == ['\n'] then some [] else (Clause.blanks? rest).bind onlyLine?
  return (Text.toNat digits, name, clauses)

-- An item without a name is a filler, its first word belonging to the clauses.
def nameOrFiller (name clauses : Text) : Text × Text :=
  if clauseWords.contains name.upper then (fillerName, name ++ ' ' :: clauses)
  else if name.upper = fillerName then (fillerName, clauses)
  else (name, clauses)

-- What the item redefines, and the text after that clause, which comes first.
def redefinesIn (s : Text) : Option Text × Text :=
  match Clause.redefines? s with
  | some (target, rest) => (some (normalizeName target), rest)
  | none => (none, s)

-- The literal, and the text without its clause.
def valueIn (s : Text) : Option Text × Text :=
  match Clause.search Clause.value? none s with
  | some found => (some found.item, found.others)
  | none => (none, s)

-- How many occurrences there are, and the text without that clause.
def occursIn (s : Text) : Except SourceFault (Option Nat × Text) := do
  if (Clause.search Clause.dependingOn? none s).isSome then throw .dependingOn
  match Clause.search Clause.occurs? none s with
  | some found =>
    let count ← (Text.readNat found.item).mapError .digits
    if count = 0 then throw .noOccurrences
    return (some count, Clause.removeKeyPhrases found.others)
  | none => return (none, s)

-- The picture with its usage. Without a picture there is to be no usage.
def pictureIn (s : Text) : Except SourceFault (Option Text) := do
  match Clause.search Clause.picture? none s with
  | some found =>
    let format := found.item.upper
    let usage := (Clause.search Clause.usage? none found.others).map (·.item.upper)
    match usage with
    | some word => return some (format ++ ' ' :: word)
    | none => return some format
  | none =>
    if (Clause.search Clause.bareUsage? none s).isSome then throw .bareUsage
    if (Clause.search Clause.usage? none s).isSome then throw .groupUsage
    return none

-- The clauses, each searched for in what the ones before it have left.
def clauses (s : Text) : Except SourceFault Clauses := do
  let (redefines, s) := redefinesIn s
  let (value, s) := valueIn s
  let (occurs, s) ← occursIn s
  return ⟨redefines, value, occurs, ← pictureIn s⟩

-- The level, the name and the clauses that a statement declares.
def declare (statement : Text) : Except SourceFault (Nat × Text × Clauses) := do
  match header? (Text.dropRight (· == '.') (collapse statement)) with
  | none => throw .unreadable
  | some (level, name, rest) =>
    let (name, rest) := nameOrFiller name rest
    return (level, normalizeName name, ← clauses rest)

-- Items that may still enclose others, the innermost first, with their levels.
abbrev Open := List (Nat × Text)

-- The open items that enclose an item of this level.
def Open.around (items : Open) (level : Nat) : Open :=
  items.dropWhile fun item => level ≤ item.1

def Open.nearest? (items : Open) : Option Text :=
  items.head?.map (·.2)

-- The open items of all kinds, those with occurrences, and those that redefine others.
structure Nesting where
  items : Open := []
  occurring : Open := []
  redefining : Open := []

namespace Nesting

def around (n : Nesting) (level : Nat) : Nesting :=
  ⟨n.items.around level, n.occurring.around level, n.redefining.around level⟩

-- Only an item without a picture encloses others as a group with occurrences.
def push (n : Nesting) (d : Declaration) : Nesting where
  items := (d.level, d.name) :: n.items
  occurring := if d.occurs.isSome && d.picture.isNone then (d.level, d.name) :: n.occurring
    else n.occurring
  redefining := if d.redefines.isSome then (d.level, d.name) :: n.redefining else n.redefining

def place (n : Nesting) (level : Nat) (name : Text) (c : Clauses) (line : Text) : Declaration where
  level := level
  name := name
  picture := c.picture
  occurs := c.occurs
  redefines := c.redefines
  value := c.value
  parent := n.items.nearest?
  occursGroup := n.occurring.nearest?
  redefinesGroup := n.redefining.nearest?
  line := line

end Nesting

-- Condition names and renamings declare no items.
def isSkipped (level : Nat) : Bool :=
  level == 66 || level == 88

-- Independent items count as records of their own.
def effectiveLevel (level : Nat) : Nat :=
  if level = 77 then 1 else level

def declarationsFrom (n : Nesting) : List Text → Except SourceError (List Declaration)
  | [] => return []
  | line :: lines => do
    if line.all isBlank then declarationsFrom n lines
    else
      let (level, name, c) ← (declare line).mapError (⟨·, line⟩)
      if isSkipped level then declarationsFrom n lines
      else
        let level := effectiveLevel level
        if level < 1 ∨ 49 < level then throw ⟨.levelOutOfRange level, line⟩
        let n := n.around level
        let d := n.place level name c line
        return d :: (← declarationsFrom (n.push d) lines)

-- The items that the statements declare, in order.
def declarations (statements : List Text) : Except SourceError (List Declaration) :=
  declarationsFrom {} statements

-- The items that a copybook declares.
def read (source : Text) : Except SourceError (List Declaration) :=
  declarations (statements source)

end Source

end Copybook
