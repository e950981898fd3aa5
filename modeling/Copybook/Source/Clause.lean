import Copybook.Text.Blank
import Copybook.Text.Case
import Copybook.Text.Digits
import Copybook.Text.Word

/-!
The clauses of a declaration. A reader takes a clause from the front of a text and answers with what
follows it; a clause is searched for at every place of a statement, and the first place counts. Keywords may
be written in either case.
-/

namespace Copybook.Source.Clause

-- Skips a word in either case.
def keyword? : (word : Text) → Text → Option Text
  | [], s => some s
  | letter :: word, c :: s => if sameLetter letter c then keyword? word s else none
  | _ :: _, [] => none

-- Skips blanks, at least one.
def blanks? (s : Text) : Option Text :=
  if s.head?.any isBlank then some (s.dropWhile isBlank) else none

-- Takes what comes before the next blank, at least one character.
def word? (s : Text) : Option (Text × Text) :=
  let word := s.takeWhile (!isBlank ·)
  if word.isEmpty then none else some (word, s.dropWhile (!isBlank ·))

def digits? (s : Text) : Option (Text × Text) :=
  let digits := s.takeWhile isDecimalDigit
  if digits.isEmpty then none else some (digits, s.dropWhile isDecimalDigit)

-- Skips a word and the blanks after it.
def phrase? (word : Text) (s : Text) : Option Text := do
  blanks? (← keyword? word s)

-- Skips a word and the blanks after it if they are there.
def skip (word : Text) (s : Text) : Text :=
  (phrase? word s).getD s

-- What a reader has taken of `s`, when it leaves `rest`.
def taken (s rest : Text) : Text :=
  s.take (s.length - rest.length)

def wordBegins (before : Option Char) : Bool :=
  !before.any isWordChar

def wordEnds (after : Text) : Bool :=
  !after.head?.any isWordChar

-- A clause in its statement.
structure Found (α : Type) where
  before : Text
  item : α
  after : Text

def Found.others (found : Found α) : Text :=
  found.before ++ found.after

-- The first place at which `read` succeeds. A reader is told the character before its place.
def search (read : Option Char → Text → Option (α × Text)) (before : Option Char) :
    Text → Option (Found α)
  | [] => (read before []).map fun (item, after) => ⟨[], item, after⟩
  | c :: s =>
    match read before (c :: s) with
    | some (item, after) => some ⟨[], item, after⟩
    | none => (search read (some c) s).map fun found => { found with before := c :: found.before }

-- The text without what `read` takes at every place, from left to right. `skipped` characters are still
-- part of the last one.
def removeFrom (read : Option Char → Text → Option Text) (before : Option Char) (skipped : Nat) :
    Text → Text
  | [] => []
  | c :: s =>
    if 0 < skipped then removeFrom read (some c) (skipped - 1) s
    else match read before (c :: s) with
      | some rest => removeFrom read (some c) (s.length - rest.length) s
      | none => c :: removeFrom read (some c) 0 s

-- `REDEFINES target`, at the front.

-- A letter, a digit, a hyphen or a low line; letters also as the variants that stand for them.
def isTargetChar (c : Char) : Bool :=
  c.isAlphanum || c == '_' || c == '-' ||
    c.toNat == 0x17f || c.toNat == 0x131 || c.toNat == 0x130 || c.toNat == 0x212a

def redefines? (s : Text) : Option (Text × Text) := do
  let s ← phrase? "REDEFINES".toList s
  let target := s.takeWhile isTargetChar
  if target.isEmpty then none else some (target, s.dropWhile isTargetChar)

-- `VALUE literal`.

-- What follows a literal that `mark` has opened. A doubled mark belongs to the literal. If the literal is
-- not closed, it ends with the first of the last two doubled marks: `fallback` follows that.
def closeQuote (mark : Char) (fallback : Option Text) : Text → Option Text
  | [] => fallback
  | [c] => if c = mark then some [] else fallback
  | c :: d :: s =>
    if c = mark then
      if d = mark then closeQuote mark (some (d :: s)) s else some (d :: s)
    else closeQuote mark fallback (d :: s)

-- What follows a quoted literal, or a run of characters that are neither blank nor quotes.
def simpleLiteral? : Text → Option Text
  | [] => none
  | c :: s =>
    if c = '\'' ∨ c = '"' then closeQuote c none s
    else if isBlank c then none
    else some (s.dropWhile fun d => !isBlank d && d != '\'' && d != '"')

def literal? (s : Text) : Option (Text × Text) := do
  let rest ← (phrase? "ALL".toList s).bind simpleLiteral? <|> simpleLiteral? s
  return (taken s rest, rest)

-- After the keyword, `IS` or `ARE` may precede the literal; without a literal after it, such a word is the
-- literal itself.
def value? (before : Option Char) (s : Text) : Option (Text × Text) := do
  if !wordBegins before then none
  let s ← keyword? "VALUE".toList s
  let s ← blanks? ((keyword? "S".toList s).getD s)
  (phrase? "IS".toList s <|> phrase? "ARE".toList s).bind literal? <|> literal? s

-- `OCCURS n TIMES` and what qualifies it. The count is kept as it is written.

def occurs? (before : Option Char) (s : Text) : Option (Text × Text) := do
  if !wordBegins before then none
  let (digits, rest) ← digits? (← phrase? "OCCURS".toList s)
  let withTimes := (blanks? rest).bind (keyword? "TIMES".toList ·) |>.filter wordEnds
  match withTimes with
  | some rest => some (digits, rest)
  | none => if wordEnds rest then some (digits, rest) else none

def dependingOn? (before : Option Char) (s : Text) : Option (Unit × Text) := do
  if !wordBegins before then none
  let rest ← keyword? "ON".toList (← phrase? "DEPENDING".toList s)
  if wordEnds rest then some ((), rest) else none

-- The phrase that names an index or a key of a table, with the name.
def keyPhrase? (before : Option Char) (s : Text) : Option Text := do
  if !wordBegins before then none
  let s ← (phrase? "INDEXED".toList s).bind (phrase? "BY".toList) <|> (do
    let s ← phrase? "ASCENDING".toList s <|> phrase? "DESCENDING".toList s
    (phrase? "KEY".toList s).bind (phrase? "IS".toList))
  return (← word? s).2

def removeKeyPhrases (s : Text) : Text :=
  removeFrom keyPhrase? none 0 s

-- `PICTURE format` and `USAGE word`.

-- `IS` may precede the format; with nothing after it, it is the format itself.
def picture? (before : Option Char) (s : Text) : Option (Text × Text) := do
  if !wordBegins before then none
  let s ← keyword? "PIC".toList s
  let s ← blanks? ((keyword? "TURE".toList s).getD s)
  (phrase? "IS".toList s).bind word? <|> word? s

-- A hyphen and one of the digits, if they are there.
def skipVariant (variants : List Char) : Text → Text
  | '-' :: d :: s => if variants.contains d then s else '-' :: d :: s
  | s => s

-- What follows `COMP` or `COMPUTATIONAL`.
def computational? (s : Text) : Option Text := do
  let s ← keyword? "COMP".toList s
  return (keyword? "UTATIONAL".toList s).getD s

def usageWord? (s : Text) : Option (Text × Text) := do
  let rest ← ((computational? s).map (skipVariant ['3', '4', '5'])) <|> keyword? "BINARY".toList s <|>
    keyword? "PACKED-DECIMAL".toList s
  if rest.head?.all isBlank then some (taken s rest, rest) else none

def usage? (before : Option Char) (s : Text) : Option (Text × Text) := do
  if !wordBegins before then none
  ((phrase? "USAGE".toList s).bind fun s => usageWord? (skip "IS".toList s)) <|> usageWord? s

-- A usage of items that have no picture. Here a hyphen is part of a word.
def bareUsage? (before : Option Char) (s : Text) : Option (Unit × Text) := do
  if before.any fun c => isWordChar c || c == '-' then none
  let rest ← (do
      match ← computational? s with
      | '-' :: d :: s => if d = '1' ∨ d = '2' then some s else none
      | _ => none)
    <|> keyword? "POINTER".toList s <|> keyword? "INDEX".toList s
  if rest.head?.any fun c => isWordChar c || c == '-' then none else some ((), rest)

end Copybook.Source.Clause
