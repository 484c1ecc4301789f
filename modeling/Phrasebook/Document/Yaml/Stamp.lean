import Phrasebook.Document.Basic
import Phrasebook.Moment

/-! Dates in YAML documents, with or without a time of day. -/

namespace Phrasebook.Yaml

open Document (number? isBlank)
open Text (lit isAsciiDigit after?)

/-- A date as it is written, with a time of day and its offset in minutes, if they are given. -/
structure Stamp where
  date : Date
  time : Option (Clock × Option Int)

namespace Stamp

/-- The minutes behind the hours of an offset, which need not be there. -/
def readOffsetMinutes? (text : Text) : Option Nat :=
  match after? (lit ":") text with
  | none => if text = [] then some 0 else none
  | some rest => ((number? 2 2 rest).filter (·.2 = [])).map Prod.fst

/-- An offset behind blanks, which need not be there, up to the end of the text. -/
def readOffset? (text : Text) : Option (Option Int) :=
  if text = [] then some none
  else match text.dropWhile isBlank with
    | [] => none
    | c :: rest =>
      if c = 'Z'.toNat then if rest = [] then some (some 0) else none
      else if c = '+'.toNat ∨ c = '-'.toNat then do
        let (hours, rest) ← number? 1 2 rest
        let minutes ← readOffsetMinutes? rest
        return some (signed (c == '-'.toNat) (hours * 60 + minutes))
      else none

/-- A point with the digits of a fraction, which need not be there. -/
def splitFraction (text : Text) : Text × Text :=
  match after? (lit ".") text with
  | some rest => (rest.takeWhile isAsciiDigit, rest.dropWhile isAsciiDigit)
  | none => ([], text)

def readTime? (text : Text) : Option (Clock × Option Int) := do
  let (hour, rest) ← number? 1 2 text
  let (minute, rest) ← number? 2 2 (← after? (lit ":") rest)
  let (second, rest) ← number? 2 2 (← after? (lit ":") rest)
  let (digits, rest) := splitFraction rest
  let offset ← readOffset? rest
  return (⟨hour, minute, second, Document.microseconds digits⟩, offset)

/-- What follows the letter or the blanks between a date and a time. -/
def behindDate? : Text → Option Text
  | [] => none
  | c :: rest =>
    if c = 'T'.toNat ∨ c = 't'.toNat then some rest
    else if isBlank c then some (rest.dropWhile isBlank)
    else none

/-- The date that a whole text is. -/
def read? (text : Text) : Option Stamp := do
  let (year, rest) ← number? 4 4 text
  let (month, rest) ← number? 1 2 (← after? (lit "-") rest)
  let (day, rest) ← number? 1 2 (← after? (lit "-") rest)
  if rest = [] then return ⟨⟨year, month, day⟩, none⟩
  let time ← readTime? (← behindDate? rest)
  return ⟨⟨year, month, day⟩, some time⟩

/-- Whether a plain scalar is a date.  Without a time, month and day have two digits each. -/
def isPlain (text : Text) : Bool :=
  (read? text).any fun stamp => stamp.time.isSome || text.length == (lit "2000-01-01").length

/-- The moment, unless it is none.  The offset is looked at first. -/
def moment (stamp : Stamp) : Except Moment.Fault Moment :=
  match stamp.time with
  | none => .date <$> Moment.checkedDate stamp.date
  | some (clock, offset) => do
    let offset ← offset.mapM Moment.checkedOffset
    let date ← Moment.checkedDate stamp.date
    let clock ← Moment.checkedClock clock
    return .dateTime date clock offset

end Stamp

end Phrasebook.Yaml
