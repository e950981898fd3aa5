import Copybook.Yaml.Token

/-!
A document as a tree: scalars, sequences and mappings, each with the tag that is written before it. A node
that has been given a name stands wherever the name is used.
-/

namespace Copybook.Yaml

-- A sequence or a mapping inside which its own name is used is not finished there.
inductive Node
  | scalar (tag : Option Text) (plain : Bool) (s : Text)
  | sequence (tag : Option Text) (items : List Node)
  | mapping (tag : Option Text) (fields : List (Node × Node))
  | unfinished
  deriving Repr, Inhabited

-- What stands for nothing where a node may be left out.
def Node.empty : Node :=
  .scalar none true []

-- The tokens that are left, the collections that are begun and not ended, the nodes that have names, and the
-- shorthands for the starts of tags.
structure Building where
  tokens : List Token
  depth : Nat := 0
  named : List (Text × Node) := []
  handles : List (Text × Text) := []

-- A computation on the tokens of a document.
abbrev Build := StateT Building (Except Fault)

namespace Build

-- The next token, which stays the next one.
def peek : Build Token := do
  match (← get).tokens with
  | .broken fault :: _ => throw fault
  | t :: _ => return t
  | [] => throw .misplaced

def drop : Build Unit :=
  modify fun b => { b with tokens := b.tokens.drop 1 }

def require (t : Token) : Build Unit := do
  if (← peek) != t then throw .misplaced
  drop

-- The tags with a meaning of their own have shorthands that need not be declared.
def ownHandles : List (Text × Text) := [
    ("!".toList, "!".toList), ("!!".toList, "tag:yaml.org,2002:".toList)]

def tagOf (handle : Option Text) (suffix : Text) : Build Text := do
  match handle with
  | none => return suffix
  | some handle =>
    match (← get).handles.lookup handle with
    | some start => return start ++ suffix
    | none => throw .misplaced

-- A name and a tag before a node, in whatever order.
def properties : Build (Option Text × Option Text) := do
  match ← peek with
  | .anchor name => do
    drop
    match ← peek with
    | .tag handle suffix => do
      drop
      return (some name, some (← tagOf handle suffix))
    | _ => return (some name, none)
  | .tag handle suffix => do
    drop
    match ← peek with
    | .anchor name => do
      drop
      return (some name, some (← tagOf handle suffix))
    | _ => return (none, some (← tagOf handle suffix))
  | _ => return (none, none)

-- Gives a name to a node.
def name (name : Option Text) (n : Node) : Build Unit := do
  match name with
  | some name => modify fun b => { b with named := (name, n) :: b.named }
  | none => pure ()

-- A name that no node has yet.
def freshName (n : Option Text) : Build Unit := do
  match n with
  | some n => if ((← get).named.lookup n).isSome then throw .unresolved
  | none => pure ()

-- So many collections may stand inside one another.
def maxDepth : Nat := 486

-- A collection under the name that was given to it.
def collect (n : Option Text) (items : Build Node) : Build Node := do
  freshName n
  name n .unfinished
  if maxDepth ≤ (← get).depth then throw .tooDeep
  modify fun b => { b with depth := b.depth + 1 }
  let node ← items
  modify fun b => { b with depth := b.depth - 1 }
  name n node
  return node

-- An exclamation mark alone is a tag that says nothing, except that text between marks is like plain text.
def scalarOf (tag : Option Text) (plain : Bool) (s : Text) : Node :=
  if tag = some ['!'] then .scalar none true s else .scalar tag plain s

-- The tag of a collection.
def collectionTag (tag : Option Text) : Option Text :=
  if tag = some ['!'] then none else tag

-- A node that may be left out before some tokens.
def orEmpty (before : Token → Bool) (node : Build Node) : Build Node := do
  if before (← peek) then return .empty else node

def endsField (t : Token) : Bool :=
  t == .key || t == .value || t == .blockEnd

def endsItem (t : Token) : Bool :=
  t == .comma || t == .closeSequence

def endsMember (t : Token) : Bool :=
  t == .comma || t == .closeMapping

-- The node after a colon, if there is a colon.
def afterColon (before : Token → Bool) (node : Build Node) : Build Node := do
  if (← peek) == .value then
    drop
    orEmpty before node
  else return .empty

mutual

-- A node. Blocks may stand outside of brackets only, and `entries` says whether the entries of a sequence
-- may stand where a name of the mapping around them could. Each step into a node takes one of `fuel`.
def node (fuel : Nat) (blocks entries : Bool) : Build Node :=
  match fuel with
  | 0 => throw .misplaced
  | fuel + 1 => do
    if let .aliasOf n ← peek then
      drop
      match (← get).named.lookup n with
      | some node => return node
      | none => throw .unresolved
    let (n, tag) ← properties
    let t ← peek
    if entries && t == .entry then
      return ← collect n do return .sequence (collectionTag tag) (← looseEntries fuel)
    match t, blocks with
    | .scalar plain s, _ =>
      drop
      freshName n
      let node := scalarOf tag plain s
      name n node
      return node
    | .openSequence, _ =>
      drop
      collect n do return .sequence (collectionTag tag) (← items fuel true)
    | .openMapping, _ =>
      drop
      collect n do return .mapping (collectionTag tag) (← members fuel true)
    | .blockSequence, true =>
      drop
      collect n do return .sequence (collectionTag tag) (← blockEntries fuel)
    | .blockMapping, true =>
      drop
      collect n do return .mapping (collectionTag tag) (← fields fuel)
    | _, _ =>
      if n.isNone && tag.isNone then throw .misplaced
      freshName n
      let node := scalarOf tag tag.isNone []
      name n node
      return node

-- The entries of a sequence that is indented further than what is around it.
def blockEntries (fuel : Nat) : Build (List Node) :=
  match fuel with
  | 0 => throw .misplaced
  | fuel + 1 => do
    if (← peek) == .entry then
      drop
      let item ← orEmpty (fun t => t == .entry || t == .blockEnd) (node fuel true false)
      return item :: (← blockEntries fuel)
    require .blockEnd
    return []

-- The entries of a sequence that is indented like the names around it.
def looseEntries (fuel : Nat) : Build (List Node) :=
  match fuel with
  | 0 => throw .misplaced
  | fuel + 1 => do
    if (← peek) == .entry then
      drop
      let item ← orEmpty (fun t => t == .entry || endsField t) (node fuel true false)
      return item :: (← looseEntries fuel)
    return []

-- The names and nodes of a mapping in a block.
def fields (fuel : Nat) : Build (List (Node × Node)) :=
  match fuel with
  | 0 => throw .misplaced
  | fuel + 1 => do
    if (← peek) == .key then
      drop
      let key ← orEmpty endsField (node fuel true true)
      let n ← afterColon endsField (node fuel true true)
      return (key, n) :: (← fields fuel)
    require .blockEnd
    return []

-- The items between brackets. A name with its node is an item too.
def items (fuel : Nat) (first : Bool) : Build (List Node) :=
  match fuel with
  | 0 => throw .misplaced
  | fuel + 1 => do
    if (← peek) == .closeSequence then
      drop
      return []
    if !first then require .comma
    match ← peek with
    | .closeSequence =>
      drop
      return []
    | .key =>
      drop
      let key ← orEmpty (fun t => t == .value || endsItem t) (node fuel false false)
      let n ← afterColon endsItem (node fuel false false)
      return .mapping none [(key, n)] :: (← items fuel false)
    | _ =>
      let item ← node fuel false false
      return item :: (← items fuel false)

-- The names and nodes between braces.
def members (fuel : Nat) (first : Bool) : Build (List (Node × Node)) :=
  match fuel with
  | 0 => throw .misplaced
  | fuel + 1 => do
    if (← peek) == .closeMapping then
      drop
      return []
    if !first then require .comma
    match ← peek with
    | .closeMapping =>
      drop
      return []
    | .key =>
      drop
      let key ← orEmpty (fun t => t == .value || endsMember t) (node fuel false false)
      let n ← afterColon endsMember (node fuel false false)
      return (key, n) :: (← members fuel false)
    | _ =>
      let key ← node fuel false false
      return (key, .empty) :: (← members fuel false)

end

-- The directives before a document, the number of each one's tokens taking one of `fuel`. There is one
-- version at most, whose major number is one, and one meaning of each shorthand.
def directives (fuel : Nat) (versioned : Bool) (handles : List (Text × Text)) :
    Build (List (Text × Text)) := do
  match fuel, ← peek with
  | fuel + 1, .version major =>
    drop
    if versioned || major != 1 then throw .misplaced
    directives fuel true handles
  | fuel + 1, .shorthand handle start =>
    drop
    if (handles.lookup handle).isSome then throw .misplaced
    directives fuel versioned ((handle, start) :: handles)
  | fuel + 1, .directive =>
    drop
    directives fuel versioned handles
  | _, _ => return handles

def skipEnds (fuel : Nat) : Build Unit := do
  match fuel, ← peek with
  | fuel + 1, .documentEnd =>
    drop
    skipEnds fuel
  | _, _ => return ()

-- What a document begins with.
def start (fuel : Nat) : Build Unit := do
  let handles ← directives fuel false []
  require .documentStart
  modify fun b => { b with handles := handles ++ ownHandles }

def isOutside (t : Token) : Bool :=
  match t with
  | .version _ | .shorthand .. | .directive | .documentStart | .documentEnd | .finish => true
  | _ => false

-- The one document that some tokens are, if they are any.
def document (fuel : Nat) : Build (Option Node) := do
  let t ← peek
  if t == .finish then return none
  let root ←
    if isOutside t && t != .documentEnd then do
      start fuel
      orEmpty isOutside (node fuel true false)
    else do
      modify fun b => { b with handles := ownHandles }
      node fuel true false
  skipEnds fuel
  if (← peek) != .finish then
    start fuel
    throw .unresolved
  return some root

end Build

-- The root of the document that a text is. A text without one has no root.
def Node.ofText (s : Text) : Except Fault (Option Node) :=
  let tokens := Token.ofText s
  (Build.document (2 * tokens.length + 4)).run' { tokens := tokens }

end Copybook.Yaml
