import Copybook.Bytes
import Copybook.Text.Utf8
import Copybook.Yaml.Fault

/-!
Texts as a document writes them: plain, between marks, or as a block of lines. A line that ends inside a text
is joined to the next one with a blank; lines that are empty stay line ends.
-/

namespace Copybook.Yaml

def isBreak (c : Char) : Bool :=
  c == '\n' || c == '\u0085' || c == '\u2028' || c == '\u2029'

def isSpace (c : Char) : Bool :=
  c == ' ' || c == '\t'

def isGap (c : Char) : Bool :=
  isSpace c || isBreak c

-- Whether a text ends, or goes on with a character that satisfies `p`.
def stops (p : Char → Bool) (s : Text) : Bool :=
  s.head?.all p

-- The character that a break is in a text.
def lineEnd (c : Char) : Char :=
  if c = '\u2028' ∨ c = '\u2029' then c else '\n'

-- Whether the line that begins here is the mark between two documents.
def isSeparator (s : Text) : Bool :=
  ("---".toList.isPrefixOf s || "...".toList.isPrefixOf s) && stops isGap (s.drop 3)

-- What has been read between two characters of a text, last character first: blanks, or the ends of lines
-- and how far the line under way is indented. A line end that is marked to be left out is no first one.
inductive Gap
  | blanks (read : Text)
  | lines (first : Option Char) (more : Text) (indent : Nat)
  deriving DecidableEq, Repr

namespace Gap

def push (c : Char) : Gap → Gap
  | blanks read => blanks (c :: read)
  | lines first more indent => lines first more (indent + 1)

def endLine (c : Char) : Gap → Gap
  | blanks _ => lines (some (lineEnd c)) [] 0
  | lines first more _ => lines first (lineEnd c :: more) 0

def isLines : Gap → Bool
  | blanks _ => false
  | lines .. => true

-- What a gap is in the text.
def toText : Gap → Text
  | blanks read => read.reverse
  | lines none more _ => more.reverse
  | lines (some first) more _ =>
    if first != '\n' then first :: more.reverse else if more.isEmpty then [' '] else more.reverse

end Gap

-- The text up to the closing mark, a mark inside being written twice, and what follows.
def singleFrom (gap : Gap) : Text → Except Fault (Text × Text)
  | [] => throw .unreadable
  | '\'' :: '\'' :: s => do
    let (t, rest) ← singleFrom (.blanks []) s
    return (gap.toText ++ '\'' :: t, rest)
  | '\'' :: s => return (gap.toText, s)
  | c :: s =>
    if isSpace c then singleFrom (gap.push c) s
    else if isBreak c then
      if isSeparator s then throw .unreadable else singleFrom (gap.endLine c) s
    else do
      let (t, rest) ← singleFrom (.blanks []) s
      return (gap.toText ++ c :: t, rest)

-- The character that a backslash and `c` stand for.
def escaped? (c : Char) : Option Char :=
  [('0', '\x00'), ('a', '\x07'), ('b', '\x08'), ('t', '\t'), ('\t', '\t'), ('n', '\n'), ('v', '\x0b'),
    ('f', '\x0c'), ('r', '\r'), ('e', '\x1b'), (' ', ' '), ('"', '"'), ('\\', '\\'), ('/', '/'),
    ('N', '\u0085'), ('_', '\u00a0'), ('L', '\u2028'), ('P', '\u2029')].lookup c

-- The character with a code in hexadecimal digits. Halves of a pair are no characters.
def coded (digits : Text) : Except Fault Char := do
  let code ← digits.foldlM (fun n c =>
    match Bytes.hexValue? c with
    | some d => return n * 16 + d
    | none => throw .unreadable) 0
  if 0x110000 ≤ code then throw (.noCharacter code)
  else if 0xd800 ≤ code ∧ code ≤ 0xdfff then return replacementChar
  else return Char.ofNat code

-- The text up to the closing mark, with characters written by their codes or after a backslash, and what
-- follows.
def doubleFrom (gap : Gap) : Text → Except Fault (Text × Text)
  | [] => throw .unreadable
  | '"' :: s => return (gap.toText, s)
  | '\\' :: 'x' :: a :: b :: s => do
    let d ← coded [a, b]
    let (t, rest) ← doubleFrom (.blanks []) s
    return (gap.toText ++ d :: t, rest)
  | '\\' :: 'u' :: a :: b :: c :: d :: s => do
    let d ← coded [a, b, c, d]
    let (t, rest) ← doubleFrom (.blanks []) s
    return (gap.toText ++ d :: t, rest)
  | '\\' :: 'U' :: a :: b :: c :: d :: e :: f :: g :: h :: s => do
    let d ← coded [a, b, c, d, e, f, g, h]
    let (t, rest) ← doubleFrom (.blanks []) s
    return (gap.toText ++ d :: t, rest)
  | '\\' :: c :: s =>
    if isBreak c then
      if isSeparator s then throw .unreadable
      else do
        let (t, rest) ← doubleFrom (.lines none [] 0) s
        return (gap.toText ++ t, rest)
    else
      match escaped? c with
      | some d => do
        let (t, rest) ← doubleFrom (.blanks []) s
        return (gap.toText ++ d :: t, rest)
      | none => throw .unreadable
  | c :: s =>
    if isSpace c then doubleFrom (gap.push c) s
    else if isBreak c then
      if isSeparator s then throw .unreadable else doubleFrom (gap.endLine c) s
    else do
      let (t, rest) ← doubleFrom (.blanks []) s
      return (gap.toText ++ c :: t, rest)

-- What parts the items between brackets.
def isBracketMark (c : Char) : Bool :=
  c == ',' || c == '[' || c == ']' || c == '\x7b' || c == '\x7d'

-- Whether a plain text ends before a character that `rest` follows.
def endsPlain (bracketed : Bool) (c : Char) (rest : Text) : Bool :=
  isGap c || (c == ':' && stops (fun d => isGap d || (bracketed && isBracketMark d)) rest) ||
    (bracketed && (isBracketMark c || c == '?'))

-- Whether a plain text cannot go on after a gap with a character.
def Gap.parts (bracketed : Bool) (indent : Nat) (c : Char) : Gap → Bool
  | blanks read => c == '#' && !read.isEmpty
  | lines _ _ reached => c == '#' || (!bracketed && reached < indent)

-- A plain text, what follows it and the gap after it, and whether a line ends in that gap. Lines that it
-- goes on in are indented as far as `indent` unless it stands in brackets.
def plainFrom (bracketed : Bool) (indent : Nat) (gap : Gap) : Text → Text × Text × Bool
  | [] => ([], [], gap.isLines)
  | c :: s =>
    if c = ' ' then plainFrom bracketed indent (gap.push c) s
    else if isBreak c then
      if isSeparator s then ([], s, true) else plainFrom bracketed indent (gap.endLine c) s
    else if gap.parts bracketed indent c || endsPlain bracketed c s then ([], c :: s, gap.isLines)
    else
      let (t, rest, broke) := plainFrom bracketed indent (.blanks []) s
      (gap.toText ++ c :: t, rest, broke)

-- How a block of lines is written: whether lines are joined, whether the line ends after the last one are
-- kept, or even its own is left out, and how far its lines are indented if that is said.
structure Block where
  joined : Bool
  kept : Option Bool := none
  indent : Option Nat := none
  deriving DecidableEq, Repr

namespace Block

-- What the marks after the first one say, and what follows them.
def ofMarks (joined : Bool) (s : Text) : Except Fault (Block × Text) := do
  let (kept, s) := takeKept s
  let (indent, s) ← takeIndent s
  let (kept, s) := if indent.isSome && kept.isNone then takeKept s else (kept, s)
  if stops (fun c => c == ' ' || isBreak c) s then return (⟨joined, kept, indent⟩, s)
  else throw .unreadable
where
  takeKept : Text → Option Bool × Text
    | '+' :: s => (some true, s)
    | '-' :: s => (some false, s)
    | s => (none, s)
  takeIndent : Text → Except Fault (Option Nat × Text)
    | '0' :: _ => throw .unreadable
    | c :: s => return if isAsciiDigit c then (digitValue? c, s) else (none, c :: s)
    | [] => return (none, [])

-- What follows the rest of a line that may hold a comment.
def skipLine (s : Text) : Except Fault Text :=
  let s := s.dropWhile (· == ' ')
  match if s.head? = some '#' then s.dropWhile (!isBreak ·) else s with
  | [] => return []
  | c :: s => if isBreak c then return s else throw .unreadable

-- Empty lines at the start: their ends, how far the line under way is indented and how far any of them is,
-- and what follows.
def leading (indent deepest : Nat) : Text → Text × Nat × Nat × Text
  | [] => ([], indent, deepest, [])
  | c :: s =>
    if c = ' ' then leading (indent + 1) (max deepest (indent + 1)) s
    else if isBreak c then
      let (ends, found) := leading 0 deepest s
      (lineEnd c :: ends, found)
    else ([], indent, deepest, c :: s)

-- Empty lines: their ends, how far the line under way is indented, no blanks past `most` counting, and what
-- follows.
def emptyLines (most indent : Nat) : Text → Text × Nat × Text
  | [] => ([], indent, [])
  | c :: s =>
    if c = ' ' ∧ indent < most then emptyLines most (indent + 1) s
    else if isBreak c then
      let (ends, found) := emptyLines most 0 s
      (lineEnd c :: ends, found)
    else ([], indent, c :: s)

-- The lines of a block, `ends` being the line ends before them and `reached` how far the first one is
-- indented; and what follows them. Each line takes one of `fuel`.
def linesFrom (b : Block) (indent fuel : Nat) (lineEnds ends : Text) (reached : Nat) (s : Text) :
    Text × Text :=
  match fuel with
  | 0 => ([], s)
  | fuel + 1 =>
    if reached ≠ indent ∨ s.isEmpty then
      let own := if b.kept = some false then [] else lineEnds
      (own ++ if b.kept = some true then ends else [], s)
    else
      let line := s.takeWhile (!isBreak ·)
      let rest := s.drop line.length
      let lineEnds := (rest.take 1).map lineEnd
      let (more, next, rest) := emptyLines indent 0 (rest.drop 1)
      let goesOn := next = indent ∧ !rest.isEmpty
      let (lines, left) := b.linesFrom indent fuel lineEnds more next rest
      let joint :=
        if !goesOn then []
        else if b.joined && lineEnds == ['\n'] && !stops isSpace line && !stops isSpace rest then
          if more.isEmpty then [' '] else []
        else lineEnds
      (ends ++ line ++ joint ++ lines, left)

-- A block whose mark has been read, in a collection whose inner lines are indented as far as `inner` or
-- further; and what follows the block.
def read (joined : Bool) (inner : Nat) (s : Text) : Except Fault (Text × Text) := do
  let (b, s) ← ofMarks joined s
  let s ← skipLine s
  match b.indent with
  | none =>
    let (ends, reached, deepest, s) := leading 0 0 s
    return b.linesFrom (max inner deepest) (s.length + 1) [] ends reached s
  | some more =>
    let indent := inner + more - 1
    let (ends, reached, s) := emptyLines indent 0 s
    return b.linesFrom indent (s.length + 1) [] ends reached s

end Block

end Copybook.Yaml
