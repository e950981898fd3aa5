import Copybook.Text.Digits
import Copybook.Text.Integer

/-!
Days, and moments of a day: how they are written, which of them exist and how they are shown.
-/

namespace Copybook

-- A moment of a day, with the minutes that its clock is ahead of universal time if that is said.
structure Clock where
  hour : Nat
  minute : Nat
  second : Nat
  micros : Nat
  ahead : Option Int
  deriving DecidableEq, Repr

structure Timestamp where
  year : Nat
  month : Nat
  day : Nat
  clock : Option Clock
  deriving DecidableEq, Repr

namespace Timestamp

inductive Fault
  | year (year : Nat)
  | month
  | day
  | hour
  | minute
  | second
  | offset (minutes : Int)
  deriving DecidableEq, Repr

-- A time span of some minutes as whole days, the later end of the first one counting, and seconds.
def spanText (minutes : Int) : Text :=
  let days := minutes / (24 * 60)
  let seconds := minutes % (24 * 60) * 60
  "datetime.timedelta(days=".toList ++ Text.ofInt days ++
    (if seconds = 0 then [] else ", seconds=".toList ++ Text.ofInt seconds) ++ [')']

def Fault.message : Fault → Text
  | year y => "year ".toList ++ Text.ofNat y ++ " is out of range".toList
  | month => "month must be in 1..12".toList
  | day => "day is out of range for month".toList
  | hour => "hour must be in 0..23".toList
  | minute => "minute must be in 0..59".toList
  | second => "second must be in 0..59".toList
  | offset minutes =>
    "offset must be a timedelta strictly between -timedelta(hours=24) and timedelta(hours=24), not ".toList ++
      spanText minutes ++ ['.']

def isLeap (year : Nat) : Bool :=
  year % 4 == 0 && (year % 100 != 0 || year % 400 == 0)

def monthLength (year month : Nat) : Nat :=
  if month = 2 then (if isLeap year then 29 else 28)
  else if month ∈ [4, 6, 9, 11] then 30 else 31

-- The offset is looked at before the day, and the day before the clock.
def check (t : Timestamp) : Except Fault Timestamp := do
  match t.clock.bind Clock.ahead with
  | some minutes => if 24 * 60 ≤ minutes.natAbs then throw (.offset minutes)
  | none => pure ()
  if t.year = 0 then throw (.year t.year)
  if t.month = 0 ∨ 12 < t.month then throw .month
  if t.day = 0 ∨ monthLength t.year t.month < t.day then throw .day
  match t.clock with
  | some c =>
    if 23 < c.hour then throw .hour
    if 59 < c.minute then throw .minute
    if 59 < c.second then throw .second
  | none => pure ()
  return t

def padded (width n : Nat) : Text :=
  Text.padLeft '0' width (Text.ofNat n)

-- The day and the clock with `separator` between them.
def toText (separator : Char) (t : Timestamp) : Text :=
  padded 4 t.year ++ '-' :: padded 2 t.month ++ '-' :: padded 2 t.day ++
    match t.clock with
    | some c => separator :: clockText c
    | none => []
where
  clockText (c : Clock) : Text :=
    padded 2 c.hour ++ ':' :: padded 2 c.minute ++ ':' :: padded 2 c.second ++
      (if c.micros = 0 then [] else '.' :: padded 6 c.micros) ++
      match c.ahead with
      | some minutes =>
        (if minutes < 0 then '-' else '+') :: padded 2 (minutes.natAbs / 60) ++
          ':' :: padded 2 (minutes.natAbs % 60)
      | none => []

-- Up to `most` digits, of which there must be `least`, and what follows them.
def digits? (least most : Nat) (s : Text) : Option (Text × Text) :=
  let digits := (s.take most).takeWhile isAsciiDigit
  if digits.length < least then none else some (digits, s.drop digits.length)

-- What follows a character that has to stand in front.
def after? (c : Char) : Text → Option Text
  | d :: s => if d = c then some s else none
  | [] => none

def isDayBlank (c : Char) : Bool :=
  c == ' ' || c == '\t'

-- The millionths of a second that digits after a point are; more than six say nothing.
def microsOf (digits : Text) : Nat :=
  Text.toNat (Text.padRight '0' 6 (digits.take 6))

-- Minutes after hours, none if nothing is there.
def minutes? : Text → Option Nat
  | [] => some 0
  | s => do
    let (minutes, rest) ← digits? 2 2 (← after? ':' s)
    if rest.isEmpty then return Text.toNat minutes else none

-- What a clock is ahead of universal time, at the end of a text.
def ahead? (s : Text) : Option (Option Int) :=
  match s.dropWhile isDayBlank with
  | [] => if s.isEmpty then some none else none
  | ['Z'] => some (some 0)
  | sign :: r => do
    if sign != '+' && sign != '-' then none
    let (hours, r) ← digits? 1 2 r
    return some (Text.signed (sign == '-') (Text.toNat hours * 60 + (← minutes? r)))

-- A clock after a day.
def clock? (s : Text) : Option Clock := do
  let s ← match s with
    | 'T' :: r | 't' :: r => some r
    | c :: r => if isDayBlank c then some (r.dropWhile isDayBlank) else none
    | [] => none
  let (hour, s) ← digits? 1 2 s
  let (minute, s) ← digits? 2 2 (← after? ':' s)
  let (second, s) ← digits? 2 2 (← after? ':' s)
  let (fraction, s) := match s with
    | '.' :: r => (r.takeWhile isAsciiDigit, r.dropWhile isAsciiDigit)
    | _ => ([], s)
  return ⟨Text.toNat hour, Text.toNat minute, Text.toNat second, microsOf fraction, ← ahead? s⟩

-- What a text is written like. Month and day alone take two digits each, with a clock one is enough.
def ofText? (s : Text) : Option Timestamp := do
  let (year, s) ← digits? 4 4 s
  let (month, s) ← digits? 1 2 (← after? '-' s)
  let (day, s) ← digits? 1 2 (← after? '-' s)
  if s.isEmpty then
    if month.length = 2 ∧ day.length = 2 then
      return ⟨Text.toNat year, Text.toNat month, Text.toNat day, none⟩
    else none
  else return ⟨Text.toNat year, Text.toNat month, Text.toNat day, some (← clock? s)⟩

end Timestamp

end Copybook
