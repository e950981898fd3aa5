import Copybook.Value

/-!
What can go wrong with a field: a value that has no stored form, or bytes that hold no value. And the kinds
that every fault of the library, here and elsewhere, falls into.
-/

namespace Copybook

inductive FaultKind
  | grammar
  | unsupportedFieldType
  | missingRedefinesTarget
  | fieldOverflow
  | invalidFieldData
  | unknownField
  | invalidAssignment
  | recordLength
  | decimalOverflow
  | invalidOperation
  | unknownCodePage
  | nulInName
  | conversionFailed
  | numberTooWide
  | tooManyDigits
  | notAccessor
  | notOffered
  | badSetting
  | notWritable
  | mixedColumn
  | unfitForColumn
  | wrongType
  | missingKey
  | malformedJson
  | tooDeep
  | malformedYaml
  | fileMissing
  | isDirectory
  | undecodable
  | notDirectory
  | inTheWay
  | nameTooLong
  | refused
  | badMarkup
  | unprintable
  | misplaced
  | unresolved
  | valueless
  deriving DecidableEq, Repr

-- A fault whose message shows a value is another one if the value cannot be shown: it is found while the message
-- is put together.
def FaultKind.showing (kind : FaultKind) (v : Value) : FaultKind :=
  if v.isShowable then kind else tooManyDigits

-- The message about a value that is shown, or why it cannot be.
def Value.ifShown (v : Value) (message : Text) : Text :=
  if v.isShowable then message else DigitFault.written.message

-- Whether the kind is one of those that say what is wrong with a copybook, a record or a value. The
-- others are failures of the arithmetic and the text conversion underneath.
def FaultKind.isCopybookFault : FaultKind → Bool
  | grammar | unsupportedFieldType | missingRedefinesTarget | fieldOverflow | invalidFieldData |
    unknownField | invalidAssignment | recordLength => true
  | _ => false

inductive FieldFault
  | tooLong (text : Text) (needs holds : Nat)
  | negative (value : Value)
  | tooManyDigits (value : Value) (intDigits fracDigits : Nat)
  | notNumeric (value : Value)
  | notFinite (value : Value)
  | notInCodePage (text page : Text)
  | notZoned (byte : UInt8)
  | notPacked (byte : UInt8)
  | arithmetic (fault : Decimal.Fault)
  | unknownCodePage (page : Text)
  | nulInName
  | conversionFailed (message : Text)
  | numberTooWide (number : Int) (length : Nat)
  | digits (fault : DigitFault)
  deriving Repr

namespace FieldFault

def kind : FieldFault → FaultKind
  | tooLong .. => .fieldOverflow
  | negative value | tooManyDigits value .. => FaultKind.fieldOverflow.showing value
  | notNumeric value | notFinite value => FaultKind.invalidFieldData.showing value
  | notInCodePage .. | notZoned .. | notPacked .. => .invalidFieldData
  | arithmetic .overflow => .decimalOverflow
  | arithmetic .invalidOperation => .invalidOperation
  | unknownCodePage .. => .unknownCodePage
  | nulInName => .nulInName
  | conversionFailed _ => .conversionFailed
  | numberTooWide .. => .numberTooWide
  | digits _ => .tooManyDigits

def message : FieldFault → Text
  | tooLong text needs holds =>
    text.quoted ++ " needs ".toList ++ Text.ofNat needs ++ " bytes, field holds ".toList ++ Text.ofNat holds
  | negative value => value.ifShown <| value.quoted ++ " is negative, field is unsigned".toList
  | tooManyDigits value intDigits fracDigits =>
    value.ifShown <|
      value.quoted ++ " does not fit ".toList ++ Text.ofNat intDigits ++ " integer and ".toList ++
        Text.ofNat fracDigits ++ " decimal digits".toList
  | notNumeric value => value.ifShown <| value.quoted ++ " is not a numeric value".toList
  | notFinite value => value.ifShown <| value.quoted ++ " is not a finite number".toList
  | notInCodePage text page => text.quoted ++ " cannot be encoded as ".toList ++ page
  | notZoned byte => byteName byte ++ " is not a zoned decimal digit".toList
  | notPacked byte => byteName byte ++ " is not packed decimal".toList
  | arithmetic .overflow => "overflow".toList
  | arithmetic .invalidOperation => "invalid operation".toList
  | unknownCodePage page => "unknown encoding: ".toList ++ page
  | nulInName => "embedded null character".toList
  | conversionFailed message => message
  | numberTooWide number length =>
    Text.ofInt number ++ " does not fit ".toList ++ Text.ofNat length ++ " bytes".toList
  | digits fault => fault.message
where
  byteName (byte : UInt8) : Text :=
    "byte 0x".toList ++ Bytes.hexDigits 2 byte.toNat

end FieldFault

end Copybook
