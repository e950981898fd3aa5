import Copybook.Console.Pictograph

/-!
Text with tags in brackets, which say how the text after them looks: `[bold]` opens a style, `[/bold]` or `[/]`
closes it. A console without colours shows the text alone. A backslash before a tag makes it text.
-/

namespace Copybook.Console

-- A closing tag that closes nothing.
inductive MarkupFault
  | unmatched (name : Text)
  | nothingOpen
  deriving DecidableEq, Repr

-- A piece of a text with tags.
inductive Piece
  | plain (s : Text)
  | tag (name : Text)
  deriving DecidableEq, Repr

-- Any other character in its place makes brackets text.
def beginsTag (c : Char) : Bool :=
  c.isLower || c == '#' || c == '/' || c == '@'

-- How many backslashes are at the front.
def slashCount (s : Text) : Nat :=
  (s.takeWhile (· == '\\')).length

-- A tag at the front with the backslashes before it: how many they are, what is in the brackets, and what
-- follows.
def tagAt? (s : Text) : Option (Nat × Text × Text) :=
  let slashes := slashCount s
  match s.drop slashes with
  | '[' :: c :: r =>
    let inside := r.takeWhile fun d => d != '[' && d != ']'
    match r.drop inside.length with
    | ']' :: rest => if beginsTag c then some (slashes, c :: inside, rest) else none
    | _ => none
  | _ => none

theorem length_of_tagAt? {s inside rest : Text} {n : Nat} (h : tagAt? s = some (n, inside, rest)) :
    rest.length < s.length := by
  simp only [tagAt?] at h
  split at h
  · next r hr =>
    split at h
    · next rest' hrest =>
      split at h
      · cases h
        have h₁ := congrArg List.length hr
        have h₂ := congrArg List.length hrest
        simp at h₁ h₂
        omega
      · contradiction
    · contradiction
  · contradiction

-- How many characters are before the next place where a tag may begin: all backslashes, or one character.
def passed (s : Text) : Nat :=
  max 1 (slashCount s)

theorem length_drop_passed_lt {s : Text} (h : s ≠ []) : (s.drop (passed s)).length < s.length := by
  have := List.length_pos_iff.2 h
  simp [passed]
  omega

-- The pieces of a text, `read` being the plain one under way, last character first. Each two backslashes
-- before a tag are one, and one that is left over makes the tag text.
def piecesFrom (read : Text) (s : Text) : List Piece :=
  match _h : tagAt? s with
  | some (slashes, inside, rest) =>
    let before := [Piece.plain read.reverse, .plain (List.replicate (slashes / 2) '\\')]
    let tag := if slashes % 2 = 1 then Piece.plain ('[' :: inside ++ [']']) else .tag inside
    before ++ tag :: piecesFrom [] rest
  | none =>
    if _hs : s = [] then [.plain read.reverse]
    else piecesFrom ((s.take (passed s)).reverse ++ read) (s.drop (passed s))
termination_by s.length
decreasing_by
  · exact length_of_tagAt? _h
  · exact length_drop_passed_lt _hs

-- Styles with one letter or two as another name.
def shortNames : List (Text × Text) := [
    ("b".toList, "bold".toList), ("d".toList, "dim".toList), ("i".toList, "italic".toList),
    ("u".toList, "underline".toList), ("uu".toList, "underline2".toList), ("r".toList, "reverse".toList),
    ("s".toList, "strike".toList), ("c".toList, "conceal".toList), ("o".toList, "overline".toList)]

-- The style that a tag names. What follows an equals sign is no part of the name.
def styleName (tag : Text) : Text :=
  let name := (Text.strip (tag.takeWhile (· != '='))).lower
  (shortNames.lookup name).getD name

-- Two characters for a bracket that opens no tag.
def unescape : Text → Text
  | '\\' :: '[' :: s => '[' :: unescape s
  | c :: s => c :: unescape s
  | [] => []

-- The text of some pieces, `opened` being the styles that are open before them, the last one first.
def shown (opened : List Text) : List Piece → Except MarkupFault Text
  | [] => return []
  | .plain s :: pieces => do return drawPictographs (unescape s) ++ (← shown opened pieces)
  | .tag ('/' :: tag) :: pieces =>
    let name := styleName tag
    if name.isEmpty then
      match opened with
      | [] => throw .nothingOpen
      | _ :: opened => shown opened pieces
    else if opened.contains name then shown (opened.erase name) pieces
    else throw (.unmatched name)
  | .tag tag :: pieces => shown (styleName tag :: opened) pieces

-- Controls that would move the position.
def movesPosition (c : Char) : Bool :=
  c.toNat == 7 || c.toNat == 8 || c.toNat == 11 || c.toNat == 12 || c.toNat == 13

-- The text that is seen.
def render (s : Text) : Except MarkupFault Text :=
  (shown [] (piecesFrom [] s)).map fun text => text.filter (!movesPosition ·)

-- The text with the backslashes before each tag doubled and one more.
def escapeFrom (s : Text) : Text :=
  match _h : tagAt? s with
  | some (slashes, inside, rest) =>
    List.replicate (2 * slashes + 1) '\\' ++ '[' :: inside ++ ']' :: escapeFrom rest
  | none => if _hs : s = [] then [] else s.take (passed s) ++ escapeFrom (s.drop (passed s))
termination_by s.length
decreasing_by
  · exact length_of_tagAt? _h
  · exact length_drop_passed_lt _hs

-- The text with its tags made text. One backslash at the end becomes two.
def escape (s : Text) : Text :=
  let escaped := escapeFrom s
  match escaped.reverse with
  | '\\' :: '\\' :: _ => escaped
  | '\\' :: _ => escaped ++ ['\\']
  | _ => escaped

end Copybook.Console
