import Copybook.Yaml.Written

/-!
The tokens of a document, and a text as the tokens it holds. Indentation becomes tokens too, and so does a
name that turns out to be one only when its colon is read.
-/

namespace Copybook.Yaml

inductive Token
  | version (major : Nat)
  | shorthand (handle start : Text)
  | directive
  | documentStart
  | documentEnd
  | blockSequence
  | blockMapping
  | blockEnd
  | openSequence
  | closeSequence
  | openMapping
  | closeMapping
  | comma
  | entry
  | key
  | value
  | aliasOf (name : Text)
  | anchor (name : Text)
  | tag (handle : Option Text) (suffix : Text)
  | scalar (plain : Bool) (s : Text)
  | finish
  | broken (fault : Fault)
  deriving DecidableEq, Repr

-- A place in a text: what follows it and where it is. A byte order mark takes no column.
structure Cursor where
  rest : Text
  index : Nat := 0
  line : Nat := 0
  column : Nat := 0

namespace Cursor

def next (here : Cursor) : Cursor :=
  match here.rest with
  | [] => here
  | c :: rest =>
    if isBreak c then ⟨rest, here.index + 1, here.line + 1, 0⟩
    else ⟨rest, here.index + 1, here.line, if c = '\ufeff' then here.column else here.column + 1⟩

def advance (here : Cursor) : Nat → Cursor
  | 0 => here
  | n + 1 => here.next.advance n

-- The place that only `rest` follows.
def goTo (here : Cursor) (rest : Text) : Cursor :=
  here.advance (here.rest.length - rest.length)

end Cursor

-- What may turn out to be a name: the number of its first token, whether it has to be a name, and where it
-- begins.
structure Candidate where
  number : Nat
  required : Bool
  index : Nat
  line : Nat
  column : Nat

-- The tokens of a text up to a place in it. `depth` brackets are open there, `indent` is how far the block is
-- indented that it stands in, and `outer` the same of the blocks around that one; what is in no block counts
-- as indented by less than nothing. There is at most one candidate for each number of open brackets.
structure Reading where
  place : Cursor
  tokens : Array Token := #[]
  depth : Nat := 0
  indent : Int := -1
  outer : List Int := []
  nameMayStart : Bool := true
  candidates : List (Nat × Candidate) := []
  finished : Bool := false

namespace Reading

def push (r : Reading) (t : Token) : Reading :=
  { r with tokens := r.tokens.push t }

-- Past so many characters with a token for them.
def pushChars (r : Reading) (n : Nat) (t : Token) : Reading :=
  { r with place := r.place.advance n, tokens := r.tokens.push t }

-- Names have their colon in the same line, and not too far from their start.
def maxName : Nat := 1024

-- Without the candidates that cannot be names any more.
def dropStale (r : Reading) : Except Fault Reading := do
  let isStale (c : Candidate) : Bool := c.line != r.place.line || r.place.index - c.index > maxName
  if r.candidates.any fun (_, c) => isStale c && c.required then throw .unreadable
  return { r with candidates := r.candidates.filter fun (_, c) => !isStale c }

-- Without the candidate between the brackets that are open.
def dropCandidate (r : Reading) : Except Fault Reading := do
  if (r.candidates.lookup r.depth).any (·.required) then throw .unreadable
  return { r with candidates := r.candidates.filter fun (depth, _) => depth != r.depth }

-- With a candidate that begins here, if one may. A name there has to be where a block goes on.
def addCandidate (r : Reading) : Except Fault Reading := do
  if !r.nameMayStart then return r
  let required := r.depth == 0 && r.indent == r.place.column
  let c : Candidate := ⟨r.tokens.size, required, r.place.index, r.place.line, r.place.column⟩
  let r ← r.dropCandidate
  return { r with candidates := (r.depth, c) :: r.candidates }

-- Ends the blocks that are indented further than `column`.
def unwindFrom (column : Int) (r : Reading) : List Int → Reading
  | [] => r
  | indent :: outer =>
    if column < r.indent then
      unwindFrom column { r with indent := indent, outer := outer, tokens := r.tokens.push .blockEnd } outer
    else r

-- Between brackets indentation says nothing.
def unwind (r : Reading) (column : Int) : Reading :=
  if r.depth = 0 then unwindFrom column r r.outer else r

-- Begins a block at a column, unless there is one that is indented as far, with a token at place `number`.
def beginBlock (r : Reading) (column number : Nat) (t : Token) : Reading :=
  if r.depth = 0 ∧ r.indent < column then
    { r with
      indent := column
      outer := r.indent :: r.outer
      tokens := insertAt r.tokens number t }
  else r
where
  insertAt (ts : Array Token) (n : Nat) (t : Token) : Array Token :=
    ts.extract 0 n ++ #[t] ++ ts.extract n ts.size

def isWordChar (c : Char) : Bool :=
  isAsciiDigit c || ('A' ≤ c && c ≤ 'Z') || ('a' ≤ c && c ≤ 'z') || c == '-' || c == '_'

-- What follows blanks, comments and line ends, and whether a line ends among them.
def skipGap (comment : Bool) : Text → Text × Bool
  | [] => ([], false)
  | c :: s =>
    if isBreak c then ((skipGap false s).1, true)
    else if comment || c == '#' then skipGap true s
    else if c = ' ' then skipGap false s
    else (c :: s, false)

def goToNext (r : Reading) : Reading :=
  let place := if r.place.index = 0 ∧ r.place.rest.head? = some '\ufeff' then r.place.next else r.place
  let (rest, broke) := skipGap false place.rest
  { r with place := place.goTo rest, nameMayStart := r.nameMayStart || (broke && r.depth == 0) }

-- The end of the text: no block goes on.
def finish (r : Reading) : Except Fault Reading := do
  let r ← (r.unwind (-1)).dropCandidate
  return { r.push .finish with candidates := [], nameMayStart := false, finished := true }

-- A mark between documents: no block goes on.
def separator (r : Reading) (t : Token) : Except Fault Reading := do
  let r ← (r.unwind (-1)).dropCandidate
  return { r.pushChars 3 t with nameMayStart := false }

-- What follows the line that a directive is on.
def isLineRest (s : Text) : Bool :=
  let s := s.dropWhile (· == ' ')
  s.head? == some '#' || stops isBreak s

def isSpaceOrBreak (c : Char) : Bool :=
  c == ' ' || isBreak c

-- The major number of a version, and what follows the version.
def version? (s : Text) : Option (Nat × Text) := do
  let s := s.dropWhile (· == ' ')
  let major := s.takeWhile isAsciiDigit
  let minor := ((s.drop major.length).drop 1).takeWhile isAsciiDigit
  let rest := s.drop (major.length + 1 + minor.length)
  if major.isEmpty || minor.isEmpty || (s.drop major.length).head? != some '.' then none
  if stops isSpaceOrBreak rest then return (Text.toNat major, rest) else none

-- A shorthand for the start of tags, and what follows it: an exclamation mark alone, or a word between two.
def handle? (s : Text) : Option (Text × Text) :=
  match s with
  | '!' :: r =>
    let word := r.takeWhile isWordChar
    match r.drop word.length with
    | '!' :: rest => some ('!' :: word ++ ['!'], rest)
    | _ => if r.head? = some ' ' then some (['!'], r) else none
  | _ => none

def isTagChar (c : Char) : Bool :=
  isWordChar c || ";/?:@&=+$,.!~*'()[]".toList.contains c

-- Characters of a tag that are written as bytes in hexadecimal digits, and what follows them.
def byteRun : Text → Bytes × Text
  | '%' :: a :: b :: s =>
    match Bytes.hexValue? a, Bytes.hexValue? b with
    | some high, some low =>
      let (bytes, rest) := byteRun s
      (UInt8.ofNat (high * 16 + low) :: bytes, rest)
    | _, _ => ([], '%' :: a :: b :: s)
  | s => ([], s)

-- The characters of a tag, and what follows them. Each piece of them takes one of `fuel`.
def tagChars (fuel : Nat) (s : Text) : Option (Text × Text) :=
  let plain := s.takeWhile isTagChar
  let rest := s.drop plain.length
  match fuel, rest with
  | fuel + 1, '%' :: _ => do
    let (bytes, rest) := byteRun rest
    if rest.head? == some '%' then none
    let written ← Utf8.decode? bytes
    let (more, rest) ← tagChars fuel rest
    return (plain ++ written ++ more, rest)
  | _, _ => some (plain, rest)

def tagText? (s : Text) : Option (Text × Text) := do
  let (chars, rest) ← tagChars s.length s
  if chars.isEmpty then none else return (chars, rest)

-- The result of a reading that may fail.
def orUnreadable {α : Type} : Option α → Except Fault α
  | some a => .ok a
  | none => .error .unreadable

-- A line that says something about the documents that follow.
def directiveOf (s : Text) : Except Fault (Token × Text) := do
  let name := s.takeWhile isWordChar
  let rest := s.drop name.length
  if name.isEmpty || !stops isSpaceOrBreak rest then throw .unreadable
  let (token, rest) ← match String.ofList name with
    | "YAML" => do
      let (major, rest) ← orUnreadable (version? rest)
      pure (Token.version major, rest)
    | "TAG" => do
      let (handle, rest) ← orUnreadable (handle? (rest.dropWhile (· == ' ')))
      if rest.head? != some ' ' then throw .unreadable
      let (start, rest) ← orUnreadable (tagText? (rest.dropWhile (· == ' ')))
      if !stops isSpaceOrBreak rest then throw .unreadable
      pure (Token.shorthand handle start, rest)
    | _ => pure (Token.directive, rest.dropWhile (!isBreak ·))
  if isLineRest rest then return (token, rest.dropWhile (!isBreak ·)) else throw .unreadable

def directive (r : Reading) : Except Fault Reading := do
  let r ← (r.unwind (-1)).dropCandidate
  let (token, rest) ← directiveOf (r.place.rest.drop 1)
  return { r.push token with place := (r.place.goTo rest).next, nameMayStart := false }

def openBracket (r : Reading) (t : Token) : Except Fault Reading := do
  let r ← r.addCandidate
  return { r.pushChars 1 t with depth := r.depth + 1, nameMayStart := true }

def closeBracket (r : Reading) (t : Token) : Except Fault Reading := do
  let r ← r.dropCandidate
  return { r.pushChars 1 t with depth := r.depth - 1, nameMayStart := false }

def comma (r : Reading) : Except Fault Reading := do
  let r ← r.dropCandidate
  return { r.pushChars 1 .comma with nameMayStart := true }

def entry (r : Reading) : Except Fault Reading := do
  if r.depth = 0 ∧ !r.nameMayStart then throw .unreadable
  let r ← (r.beginBlock r.place.column r.tokens.size .blockSequence).dropCandidate
  return { r.pushChars 1 .entry with nameMayStart := true }

def key (r : Reading) : Except Fault Reading := do
  if r.depth = 0 ∧ !r.nameMayStart then throw .unreadable
  let r ← (r.beginBlock r.place.column r.tokens.size .blockMapping).dropCandidate
  return { r.pushChars 1 .key with nameMayStart := r.depth == 0 }

-- A colon. It makes a name of a candidate.
def value (r : Reading) : Except Fault Reading := do
  match r.candidates.lookup r.depth with
  | some c =>
    let r := { r with
      candidates := r.candidates.filter fun (depth, _) => depth != r.depth
      tokens := beginBlock.insertAt r.tokens c.number .key }
    return { (r.beginBlock c.column c.number .blockMapping).pushChars 1 .value with nameMayStart := false }
  | none =>
    if r.depth = 0 ∧ !r.nameMayStart then throw .unreadable
    let r ← (r.beginBlock r.place.column r.tokens.size .blockMapping).dropCandidate
    return { r.pushChars 1 .value with nameMayStart := r.depth == 0 }

-- The characters that may follow the name of an anchor.
def endsAnchor (c : Char) : Bool :=
  isGap c || "?:,]\x7d%@\x60".toList.contains c

-- A word after a mark.
def word (r : Reading) (token : Text → Token) : Except Fault Reading := do
  let r ← r.addCandidate
  let name := (r.place.rest.drop 1).takeWhile isWordChar
  if name.isEmpty || !stops endsAnchor (r.place.rest.drop (name.length + 1)) then throw .unreadable
  return { r.pushChars (name.length + 1) (token name) with nameMayStart := false }

-- A tag at the front, after its exclamation mark, and what follows it.
def tagOf (s : Text) : Except Fault (Token × Text) :=
  match s with
  | '<' :: r => do
    let (chars, rest) ← orUnreadable (tagText? r)
    match rest with
    | '>' :: rest => return (.tag none chars, rest)
    | _ => throw .unreadable
  | _ =>
    if stops isGap s then return (.tag none ['!'], s)
    else if (s.takeWhile (!isSpaceOrBreak ·)).contains '!' then do
      let (handle, rest) ← orUnreadable (handle? ('!' :: s))
      let (chars, rest) ← orUnreadable (tagText? rest)
      return (.tag (some handle) chars, rest)
    else do
      let (chars, rest) ← orUnreadable (tagText? s)
      return (.tag (some ['!']) chars, rest)

def tag (r : Reading) : Except Fault Reading := do
  let r ← r.addCandidate
  let (token, rest) ← tagOf (r.place.rest.drop 1)
  if !stops isSpaceOrBreak rest then throw .unreadable
  return { r.push token with place := r.place.goTo rest, nameMayStart := false }

def block (r : Reading) (joined : Bool) : Except Fault Reading := do
  let r ← r.dropCandidate
  let (s, rest) ← Block.read joined (max 1 (r.indent + 1).toNat) (r.place.rest.drop 1)
  return { r.push (.scalar false s) with place := r.place.goTo rest, nameMayStart := true }

def marked (r : Reading) (read : Text → Except Fault (Text × Text)) : Except Fault Reading := do
  let r ← r.addCandidate
  let (s, rest) ← read (r.place.rest.drop 1)
  return { r.push (.scalar false s) with place := r.place.goTo rest, nameMayStart := false }

def plain (r : Reading) : Except Fault Reading := do
  let r ← r.addCandidate
  let (s, rest, broke) := plainFrom (r.depth != 0) (r.indent + 1).toNat (.blanks []) r.place.rest
  return { r.push (.scalar true s) with place := r.place.goTo rest, nameMayStart := broke }

-- Whether a plain text may begin with a character that `rest` follows.
def beginsPlain (bracketed : Bool) (c : Char) (rest : Text) : Bool :=
  if c == '-' then !stops isGap rest
  else if c == '?' || c == ':' then !bracketed && !stops isGap rest
  else !isGap c && !"?:,[]\x7b\x7d#&*!|>'\"%@\x60".toList.contains c

-- Past the next token.
def step (r : Reading) : Except Fault Reading := do
  let r ← r.goToNext.dropStale
  let r := r.unwind r.place.column
  match r.place.rest with
  | [] => r.finish
  | c :: rest =>
    let lone := stops isGap rest
    let bracketed := r.depth != 0
    if c = '%' ∧ r.place.column = 0 then r.directive
    else if c = '-' ∧ r.place.column = 0 ∧ isSeparator r.place.rest then r.separator .documentStart
    else if c = '.' ∧ r.place.column = 0 ∧ isSeparator r.place.rest then r.separator .documentEnd
    else if c = '[' then r.openBracket .openSequence
    else if c = '\x7b' then r.openBracket .openMapping
    else if c = ']' then r.closeBracket .closeSequence
    else if c = '\x7d' then r.closeBracket .closeMapping
    else if c = ',' then r.comma
    else if c = '-' ∧ lone then r.entry
    else if c = '?' ∧ (bracketed || lone) then r.key
    else if c = ':' ∧ (bracketed || lone) then r.value
    else if c = '*' then r.word .aliasOf
    else if c = '&' then r.word .anchor
    else if c = '!' then r.tag
    else if c = '|' ∧ !bracketed then r.block false
    else if c = '>' ∧ !bracketed then r.block true
    else if c = '\'' then r.marked (singleFrom (.blanks []))
    else if c = '"' then r.marked (doubleFrom (.blanks []))
    else if beginsPlain bracketed c rest then r.plain
    else throw .unreadable

-- How many tokens are certain: none is inserted before them later.
def certain (r : Reading) : Nat :=
  r.candidates.foldl (fun n (_, c) => min n c.number) r.tokens.size

-- The tokens from a place on. A fault comes after the tokens that were certain before the step that it is
-- found in, `known` of them. Each step takes one of `fuel`.
def tokensFrom (fuel known : Nat) (r : Reading) : List Token :=
  match fuel with
  | 0 => r.tokens.toList
  | fuel + 1 =>
    if r.finished then r.tokens.toList
    else
      match r.step with
      | .error fault => (r.tokens.toList.take known) ++ [.broken fault]
      | .ok next =>
        if next.finished then next.tokens.toList
        else
          match next.dropStale with
          | .error fault => (next.tokens.toList.take known) ++ [.broken fault]
          | .ok next => next.tokensFrom fuel next.certain

end Reading

-- The characters that a document may hold.
def isDocumentChar (c : Char) : Bool :=
  c == '\t' || c == '\n' || c == '\r' || (' ' ≤ c && c ≤ '~') || c == '\u0085' ||
    ('\u00a0' ≤ c && c != '\ufffe' && c != '\uffff')

-- The tokens of a text.
def Token.ofText (s : Text) : List Token :=
  if s.all isDocumentChar then Reading.tokensFrom (s.length + 2) 0 { place := { rest := s } }
  else [.broken .unprintable]

end Copybook.Yaml
