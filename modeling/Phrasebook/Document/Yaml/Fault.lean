import Phrasebook.Moment
import Phrasebook.Text.Quoted

/-! Why a YAML document gives no value. -/

namespace Phrasebook.Yaml

/-- A character that no document holds, characters that form no token, tokens that form no node, nodes
that form no document, nodes that have no value; and scalars that are not what their tags say. -/
inductive Fault where
  | character
  | token
  | node
  | composition
  | construction
  | codePoint (n : Nat)
  | integer (base : Nat) (digits : Text)
  | tooManyDigits (count : Nat)
  | real (text : Text)
  | truth (text : Text)
  | emptyNumber
  | noMoment
  | moment (fault : Moment.Fault)
  deriving DecidableEq

open Text (lit quoted numeral)

/-- The numbers of code points that can be asked for at all. -/
def Fault.greatestNumber : Nat := 0x7fffffff

/-- How many characters of a faulty integer are shown. -/
def Fault.shownLength : Nat := 200

/-- What is wrong with a scalar, in words; the other faults have none. -/
def Fault.message? : Fault → Option Text
  | character => none
  | token => none
  | node => none
  | composition => none
  | construction => none
  | codePoint n =>
    some (lit (if greatestNumber < n then "Python int too large to convert to C int"
      else "chr() arg not in range(0x110000)"))
  | integer base digits =>
    some (lit "invalid literal for int() with base " ++ numeral 10 base ++ lit ": " ++
      (quoted digits).take shownLength)
  | tooManyDigits count => some (Digits.limitMessage (some count))
  | real text => some (lit "could not convert string to float: " ++ quoted text)
  | truth text => some (quoted text)
  | emptyNumber => some (lit "string index out of range")
  | noMoment => some (lit "'NoneType' object has no attribute 'groupdict'")
  | moment fault => some fault.message

end Phrasebook.Yaml
