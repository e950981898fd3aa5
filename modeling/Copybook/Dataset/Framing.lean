import Copybook.Bytes
import Copybook.Fault
import Copybook.Notice

/-!
Datasets: records one after another in a file, told apart by their common length or by descriptor words.

A record descriptor word is the length of its record, itself included, in two bytes, and two bytes that are
not looked at. A block descriptor word is the length of its block of records, itself included, in four.
-/

namespace Copybook

-- Records of one length, records with descriptor words, or such records in blocks.
inductive Framing
  | fixed
  | records
  | blocks
  deriving DecidableEq, Repr

inductive FramingFault
  | lengthMissing
  | lengthNotPositive (length : Int)
  | unknown (name : Text)
  | tooLong (size : Nat)
  deriving DecidableEq, Repr

-- A record in a dataset: the length that counts for it there, and its bytes.
structure Frame where
  length : Nat
  body : Bytes
  deriving DecidableEq, Repr

-- What comes up when a dataset is read from its start to its end.
inductive Reading
  | frame (f : Frame)
  | notice (n : Notice)
  deriving DecidableEq, Repr

namespace FramingFault

def kind : FramingFault → FaultKind
  | tooLong .. => .numberTooWide
  | _ => .badSetting

def message : FramingFault → Text
  | lengthMissing => "fixed framing needs a record length".toList
  | lengthNotPositive length => "record length must be positive, got ".toList ++ Text.ofInt length
  | unknown name =>
    "unknown framing '".toList ++ name ++ "', expected one of ('fixed', 'rdw', 'bdw')".toList
  | tooLong size => Text.ofNat size ++ " bytes do not fit a descriptor word".toList

end FramingFault

namespace Reading

def frame? : Reading → Option Frame
  | frame f => some f
  | notice _ => none

def notice? : Reading → Option Notice
  | frame _ => none
  | notice n => some n

-- What has come up when the record after the first `n` is met.
def upTo : Nat → List Reading → List Reading
  | _, [] => []
  | n, notice x :: rs => notice x :: upTo n rs
  | 0, frame _ :: _ => []
  | n + 1, frame f :: rs => frame f :: upTo n rs

-- Does something with each record in turn, and passes the notices on as they come.
def traverse {α ε : Type} (f : Frame → Except ε α) : List Reading → Noting ε (List α)
  | [] => return []
  | notice n :: rs => do
    Noting.note n
    traverse f rs
  | frame r :: rs => do
    let a ← Noting.lift (f r)
    return a :: (← traverse f rs)

end Reading

namespace Framing

def name : Framing → Text
  | fixed => "fixed".toList
  | records => "rdw".toList
  | blocks => "bdw".toList

def ofName? (name : Text) : Option Framing :=
  [fixed, records, blocks].find? fun framing => framing.name == name

theorem ofName?_name (framing : Framing) : ofName? framing.name = some framing := by
  cases framing <;> decide

-- Records of `length` bytes each. What is left at the end is no record.
def readFixed (length : Nat) (positive : 0 < length) (data : Bytes) : List Reading :=
  match h : Bytes.cut? length data with
  | some (body, rest) =>
    have : rest.length < data.length := by have := Bytes.length_of_cut? h; omega
    .frame ⟨length, body⟩ :: readFixed length positive rest
  | none => if data.isEmpty then [] else [.notice (.trailingBytes data.length)]
termination_by data.length

-- Records with descriptor words, the first of them at `offset`. Less than a word at the end is skipped; a
-- word whose length cannot be right ends the reading.
def readRecords (offset : Nat) (data : Bytes) : List Reading :=
  match h : Bytes.cut? 4 data with
  | none => []
  | some (word, rest) =>
    let length := Bytes.toNat (word.take 2)
    match h' : if length < 4 then none else Bytes.cut? (length - 4) rest with
    | none => [.notice (.badDescriptor .record offset length)]
    | some (body, rest') =>
      have : rest'.length < data.length := by
        have := Bytes.length_of_cut? h
        split at h'
        · contradiction
        · have := Bytes.length_of_cut? h'; omega
      .frame ⟨length, body⟩ :: readRecords (offset + length) rest'
termination_by data.length

-- Blocks, the first of them at `offset`. The records of a block are read as if it stood alone, so a bad
-- word in it ends the reading of that block only.
def readBlocks (offset : Nat) (data : Bytes) : List Reading :=
  match h : Bytes.cut? 4 data with
  | none => []
  | some (word, rest) =>
    let length := Bytes.toNat word
    match h' : if length < 4 then none else Bytes.cut? (length - 4) rest with
    | none => [.notice (.badDescriptor .block offset length)]
    | some (block, rest') =>
      have : rest'.length < data.length := by
        have := Bytes.length_of_cut? h
        split at h'
        · contradiction
        · have := Bytes.length_of_cut? h'; omega
      readRecords 0 block ++ readBlocks (offset + length) rest'
termination_by data.length

-- Reads a dataset. Only records of one length need to know it.
def read (framing : Framing) (length : Option Int) (data : Bytes) : Except FramingFault (List Reading) :=
  match framing, length with
  | fixed, none => .error .lengthMissing
  | fixed, some length =>
    if h : 0 < length then .ok (readFixed length.toNat (by omega) data)
    else .error (.lengthNotPositive length)
  | records, _ => .ok (readRecords 0 data)
  | blocks, _ => .ok (readBlocks 0 data)

-- The descriptor word of a record.
def recordWord (body : Bytes) : Except FramingFault Bytes :=
  match Bytes.ofNat? 2 (body.length + 4) with
  | some length => .ok (length ++ [0, 0])
  | none => .error (.tooLong body.length)

-- The descriptor word of a block.
def blockWord (block : Bytes) : Except FramingFault Bytes :=
  match Bytes.ofNat? 4 (block.length + 4) with
  | some length => .ok length
  | none => .error (.tooLong block.length)

def writeRecords : List Bytes → Except FramingFault Bytes
  | [] => .ok []
  | body :: bodies => do
    let word ← recordWord body
    return word ++ body ++ (← writeRecords bodies)

-- The dataset of these records, all in one block if there are blocks.
def write (framing : Framing) (bodies : List Bytes) : Except FramingFault Bytes :=
  match framing with
  | fixed => .ok bodies.flatten
  | records => writeRecords bodies
  | blocks => do
    let block ← writeRecords bodies
    return (← blockWord block) ++ block

end Framing

-- Datasets whose framing is given by its name.
namespace Dataset

def read (framing : Text) (length : Option Int) (data : Bytes) : Except FramingFault (List Reading) :=
  match Framing.ofName? framing with
  | some framing => framing.read length data
  | none => .error (.unknown framing)

-- An unknown name is found out only when the records have their descriptor words.
def write (framing : Text) (bodies : List Bytes) : Except FramingFault Bytes :=
  match Framing.ofName? framing with
  | some framing => framing.write bodies
  | none => do
    let _ ← Framing.writeRecords bodies
    throw (.unknown framing)

end Dataset

end Copybook
