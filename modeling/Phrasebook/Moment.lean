import Phrasebook.Number.Digits

/-! Calendar dates and times of day, what makes one impossible, and their text. -/

namespace Phrasebook

structure Date where
  year : Nat
  month : Nat
  day : Nat
  deriving DecidableEq

/-- A time of day to the microsecond. -/
structure Clock where
  hour : Nat
  minute : Nat
  second : Nat
  microsecond : Nat
  deriving DecidableEq

/-- A date, a time of day, or both with the minutes by which the time is ahead of the universal one,
if they are known. -/
inductive Moment where
  | date (d : Date)
  | clock (c : Clock)
  | dateTime (d : Date) (c : Clock) (offset : Option Int)
  deriving DecidableEq

namespace Moment

/-- What is out of range. -/
inductive Fault where
  | year (n : Nat)
  | month
  | day
  | hour
  | minute
  | second
  | offset (minutes : Int)
  deriving DecidableEq

/-- Every fourth year, but of the full centuries only every fourth. -/
def isLeap (year : Nat) : Bool := year % 4 == 0 && (year % 100 != 0 || year % 400 == 0)

def daysIn (year month : Nat) : Nat :=
  if month = 2 then if isLeap year then 29 else 28
  else if [4, 6, 9, 11].contains month then 30
  else 31

/-- A date of the calendar, which begins with the year one. -/
def checkedDate (d : Date) : Except Fault Date :=
  if d.year = 0 then .error (.year d.year)
  else if d.month = 0 ∨ 12 < d.month then .error .month
  else if d.day = 0 ∨ daysIn d.year d.month < d.day then .error .day
  else .ok d

def checkedClock (c : Clock) : Except Fault Clock :=
  if 23 < c.hour then .error .hour
  else if 59 < c.minute then .error .minute
  else if 59 < c.second then .error .second
  else .ok c

/-- An offset of less than a day. -/
def checkedOffset (minutes : Int) : Except Fault Int :=
  if minutes.natAbs < 24 * 60 then .ok minutes else .error (.offset minutes)

open Text (lit numeral)

/-- `n` with at least `width` decimal digits. -/
def padded (width n : Nat) : Text :=
  let digits := numeral 10 n
  List.replicate (width - digits.length) '0'.toNat ++ digits

def dateText (d : Date) : Text :=
  padded 4 d.year ++ '-'.toNat :: padded 2 d.month ++ '-'.toNat :: padded 2 d.day

def clockText (c : Clock) : Text :=
  let fraction := if c.microsecond = 0 then [] else '.'.toNat :: padded 6 c.microsecond
  padded 2 c.hour ++ ':'.toNat :: padded 2 c.minute ++ ':'.toNat :: padded 2 c.second ++ fraction

def offsetText (minutes : Int) : Text :=
  let n := minutes.natAbs
  (if minutes < 0 then '-'.toNat else '+'.toNat) :: padded 2 (n / 60) ++ ':'.toNat :: padded 2 (n % 60)

def text : Moment → Text
  | date d => dateText d
  | clock c => clockText c
  | dateTime d c offset => dateText d ++ 'T'.toNat :: clockText c ++ offset.elim [] offsetText

/-- The name of the kind in messages. -/
def kindName : Moment → Text
  | date _ => lit "datetime.date"
  | clock _ => lit "datetime.time"
  | dateTime _ _ _ => lit "datetime.datetime"

/-- Some minutes as whole days, counted down, and seconds. -/
def spanText (minutes : Int) : Text :=
  let days := minutes.fdiv (24 * 60)
  let seconds := minutes.fmod (24 * 60) * 60
  lit "datetime.timedelta(days=" ++ Text.int days ++
    (if seconds = 0 then [] else lit ", seconds=" ++ Text.int seconds) ++ lit ")"

def Fault.message : Fault → Text
  | year n => lit "year " ++ numeral 10 n ++ lit " is out of range"
  | month => lit "month must be in 1..12"
  | day => lit "day is out of range for month"
  | hour => lit "hour must be in 0..23"
  | minute => lit "minute must be in 0..59"
  | second => lit "second must be in 0..59"
  | offset minutes =>
    lit "offset must be a timedelta strictly between -timedelta(hours=24) and " ++
      lit "timedelta(hours=24), not " ++ spanText minutes ++ lit "."

end Moment

end Phrasebook
