import Copybook.Fault

/-!
Why a text is no YAML document, or holds what stands for no value.
-/

namespace Copybook.Yaml

inductive Fault
  | unprintable
  | unreadable
  | misplaced
  | unresolved
  | valueless
  | tooDeep
  | notInteger (base : Nat) (s : Text)
  | notFloat (s : Text)
  | notBool (word : Text)
  | noCharacter (code : Nat)
  | digits (fault : DigitFault)
  | timestamp (fault : Timestamp.Fault)
  deriving DecidableEq, Repr

namespace Fault

-- Codes of characters that are more than a machine number.
def maxCode : Nat := 2 ^ 31

def kind : Fault → FaultKind
  | unprintable => .unprintable
  | unreadable => .malformedYaml
  | misplaced => .misplaced
  | unresolved => .unresolved
  | valueless => .valueless
  | tooDeep => .tooDeep
  | notInteger .. | notFloat _ | timestamp _ => .badSetting
  | notBool _ => .missingKey
  | noCharacter code => if code < maxCode then .badSetting else .numberTooWide
  | digits _ => .tooManyDigits

def message : Fault → Text
  | unprintable => "a character that no document holds".toList
  | unreadable => "characters that begin nothing where they stand".toList
  | misplaced => "a part of a document where another one has to be".toList
  | unresolved => "a name of nothing, a name given twice, or a second document".toList
  | valueless => "what stands for no value".toList
  | tooDeep => "too many collections inside one another".toList
  | notInteger base s =>
    "invalid literal for int() with base ".toList ++ Text.ofNat base ++ ": ".toList ++ s.quoted
  | notFloat s => "could not convert string to float: ".toList ++ s.quoted
  | notBool word => word.quoted
  | noCharacter _ => "chr() arg not in range(0x110000)".toList
  | digits fault => fault.message
  | timestamp fault => fault.message

end Fault

end Copybook.Yaml
