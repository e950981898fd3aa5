import Copybook.Text

/-!
Reading options from the words of a command line. A long option starts with two dashes and takes its value
from the next word or after an equals sign; a short one is a letter after one dash, several of them may share
a word, and the last may have its value in the same word. Two dashes alone end the options.
-/

namespace Copybook.CommandLine

-- An option by its key, its spellings and whether it takes a value.
structure Switch where
  key : String
  long : Text
  short : Option Char := none
  takesValue : Bool := false

-- Options with their values, in their order, and the other words.
structure Words where
  options : List (String × Text) := []
  others : List Text := []

namespace Words

def has (ws : Words) (key : String) : Bool :=
  ws.options.any fun o => o.1 == key

-- All values of an option.
def values (ws : Words) (key : String) : List Text :=
  (ws.options.filter fun o => o.1 == key).map (·.2)

-- The value of an option that is given more than once is the last one.
def value? (ws : Words) (key : String) : Option Text :=
  (ws.values key).getLast?

end Words

-- What a word with options in it holds: options, and perhaps one whose value is the next word.
structure Found where
  options : List (String × Text)
  pending : Option String := none

-- A long option, with its value if it has one after an equals sign.
def longOption? (switches : List Switch) (word : Text) : Option Found :=
  let (name, value) := match Text.cutAt? '=' word with
    | some (name, value) => (name, some value)
    | none => (word, none)
  match switches.find? fun s => s.long == name, value with
  | none, _ => none
  | some s, none => some (if s.takesValue then ⟨[], some s.key⟩ else ⟨[(s.key, [])], none⟩)
  | some s, some value => if s.takesValue then some ⟨[(s.key, value)], none⟩ else none

-- The short options whose letters these are.
def shortOptions? (switches : List Switch) : Text → Option Found
  | [] => some ⟨[], none⟩
  | c :: rest =>
    match switches.find? fun s => s.short == some c with
    | none => none
    | some s =>
      if s.takesValue then
        some (if rest.isEmpty then ⟨[], some s.key⟩ else ⟨[(s.key, rest)], none⟩)
      else (shortOptions? switches rest).map fun found => { found with options := (s.key, []) :: found.options }

def isLong (word : Text) : Bool :=
  "--".toList.isPrefixOf word

-- Whether a word starts an option; a dash alone does not.
def isOption (word : Text) : Bool :=
  word.head? == some '-' && word != ['-']

-- Reads words up to the first that is no option, or all of them if options may follow other words.
def readWords? (switches : List Switch) (mixed : Bool) : List Text → Option Words
  | [] => some {}
  | word :: rest =>
    if word = "--".toList then some { others := rest }
    else if isOption word then
      let found := if isLong word then longOption? switches word else shortOptions? switches (word.drop 1)
      match found with
      | none => none
      | some ⟨options, none⟩ =>
        (readWords? switches mixed rest).map fun ws => { ws with options := options ++ ws.options }
      | some ⟨options, some key⟩ =>
        match rest with
        | [] => none
        | value :: rest =>
          (readWords? switches mixed rest).map fun ws =>
            { ws with options := options ++ (key, value) :: ws.options }
    else if mixed then (readWords? switches mixed rest).map fun ws => { ws with others := word :: ws.others }
    else some { others := word :: rest }

end Copybook.CommandLine
