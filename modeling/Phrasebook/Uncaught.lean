import Phrasebook.Conversion.Layout
import Phrasebook.Plural.Count

/-! The classes of faults, by which a handler takes some of them and lets others pass, and the faults
that pass every handler. -/

namespace Phrasebook

open Text (lit)

/-- The classes of faults: of the kind of a value, of the value itself, of a number past a range,
and of decimal arithmetic. -/
inductive ErrorClass where
  | type
  | value
  | overflow
  | arithmetic
  deriving DecidableEq

def Conversion.Fault.errorClass : Conversion.Fault → ErrorClass
  | .widthTooBig => .value
  | .precisionTooBig => .value
  | .precisionTooLarge => .overflow
  | .unsupportedCharacter _ _ => .value
  | .realRequired _ _ => .type
  | .integerRequired _ _ => .type
  | .floatRequired _ => .type
  | .characterRequired => .type
  | .characterOutOfRange => .overflow
  | .floatNan => .value
  | .floatInfinity => .overflow
  | .decimalNan => .value
  | .decimalInfinity => .overflow
  | .signalingNan => .value
  | .intTooLarge => .overflow
  | .tooManyDigits => .value

namespace Plural.Fault

def errorClass : Plural.Fault → ErrorClass
  | .overflow => .arithmetic
  | .quotientTooLong => .arithmetic

def message : Plural.Fault → Text
  | .overflow => lit "[<class 'decimal.Overflow'>]"
  | .quotientTooLong => lit "[<class 'decimal.DivisionImpossible'>]"

end Plural.Fault

/-- A fault that leaves a call as it is: of a conversion whose handler does not take its class, of
the plural rules, or of a value that is to be shown and holds an integer of too many digits. -/
inductive Uncaught where
  | conversion (fault : Conversion.Fault)
  | plural (fault : Plural.Fault)
  | unwritable

namespace Uncaught

def errorClass : Uncaught → ErrorClass
  | conversion fault => fault.errorClass
  | plural fault => fault.errorClass
  | unwritable => .value

end Uncaught

/-- The text of a value as it is shown. -/
def Value.written (v : Value) : Except Uncaught Text :=
  match v.shown? with
  | some shown => .ok shown
  | Option.none => .error .unwritable

end Phrasebook
