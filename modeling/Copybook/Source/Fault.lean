import Copybook.Fault
import Copybook.Picture

/-!
What can be wrong with a declaration: with its text, and with its place among the others.
-/

namespace Copybook

inductive SourceFault
  | unreadable
  | levelOutOfRange (level : Nat)
  | dependingOn
  | noOccurrences
  | bareUsage
  | groupUsage
  | picture (fault : Picture.Fault) (format : Text)
  | heldByField (field item : Text)
  | noTarget (item target : Text)
  | initialValue (literal : Text) (cause : FieldFault)
  | digits (fault : DigitFault)
  deriving Repr

-- A fault and the statement it was found in.
structure SourceError where
  fault : SourceFault
  line : Text
  deriving Repr

-- A message with the text it is about after it, unless that is empty.
def about (message line : Text) : Text :=
  if line.isEmpty then message else message ++ ": ".toList ++ line.quoted

namespace SourceFault

-- The fault of a format that stands for no type.
def ofPicture (format : Text) : Picture.Fault → SourceFault
  | .digits fault => .digits fault
  | fault => .picture fault format

def kind : SourceFault → FaultKind
  | bareUsage | groupUsage | picture .. => .unsupportedFieldType
  | noTarget .. => .missingRedefinesTarget
  | digits _ => .tooManyDigits
  | _ => .grammar

def message : SourceFault → Text
  | unreadable => "Could not parse level and name".toList
  | levelOutOfRange level => "Level ".toList ++ Text.ofNat level ++ " is outside 01-49".toList
  | dependingOn => "OCCURS DEPENDING ON is not supported".toList
  | noOccurrences => "OCCURS count must be positive".toList
  | bareUsage => "Usage without a PICTURE is not supported".toList
  | groupUsage => "USAGE on a group item is not supported".toList
  | picture fault format => about fault.message format
  | heldByField field item => field ++ " has a PICTURE and cannot contain ".toList ++ item
  | noTarget item target =>
    item ++ " redefines ".toList ++ target ++ ", which is not an earlier sibling".toList
  | initialValue literal cause =>
    "VALUE ".toList ++ literal ++ " does not fit: ".toList ++ cause.message
  | digits fault => fault.message

end SourceFault

namespace SourceError

def kind (e : SourceError) : FaultKind :=
  e.fault.kind

-- The message says which statement it is about, if the fault is one of the copybook.
def message (e : SourceError) : Text :=
  if e.kind.isCopybookFault then about e.fault.message e.line else e.fault.message

end SourceError

end Copybook
