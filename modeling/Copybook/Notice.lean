import Copybook.Text.Digits

/-!
What is worth telling though it stops nothing, in the order in which it comes up.
-/

namespace Copybook

-- The descriptor word of a record or of a block.
inductive Descriptor
  | record
  | block
  deriving DecidableEq, Repr

inductive Notice
  | emptyGroup (name : Text)
  | longerRedefinition (name target : Text) (length targetLength : Nat)
  | trailingBytes (count : Nat)
  | badDescriptor (descriptor : Descriptor) (offset length : Nat)
  | invalidCopybook (path reason : Text)
  deriving DecidableEq, Repr

namespace Notice

def message : Notice → Text
  | emptyGroup name => "group ".toList ++ name ++ " declares no fields".toList
  | longerRedefinition name target length targetLength =>
    name ++ " redefines ".toList ++ target ++ " with a longer layout (".toList ++ Text.ofNat length ++
      " > ".toList ++ Text.ofNat targetLength ++ " bytes)".toList
  | trailingBytes count =>
    "ignoring ".toList ++ Text.ofNat count ++ " trailing bytes after the last full record".toList
  | badDescriptor descriptor offset length =>
    "stopping at offset ".toList ++ Text.ofNat offset ++ ": bad ".toList ++
      (match descriptor with | .record => "RDW".toList | .block => "BDW".toList) ++
      " length ".toList ++ Text.ofNat length
  | invalidCopybook path reason =>
    "copybook ".toList ++ path ++ " does not compile: ".toList ++ reason

end Notice

-- A computation that may fail, and keeps the notices it has made up to then.
abbrev Noting (ε : Type) := ExceptT ε (StateM (List Notice))

namespace Noting

variable {ε α : Type}

def note (n : Notice) : Noting ε Unit :=
  modify (· ++ [n])

def lift (x : Except ε α) : Noting ε α :=
  ExceptT.mk (pure x)

-- The result, and all notices.
def result (x : Noting ε α) : Except ε α × List Notice :=
  (ExceptT.run x).run []

-- The same computation with another word for its failures.
def mapFault {ε' : Type} (f : ε → ε') (x : Noting ε α) : Noting ε' α :=
  ExceptT.mk ((Except.mapError f) <$> x.run)

-- The outcome of a computation that may fail, without failing itself.
def attempt {ε' : Type} (x : Noting ε α) : Noting ε' (Except ε α) :=
  ExceptT.mk (Except.ok <$> x.run)

end Noting

end Copybook
