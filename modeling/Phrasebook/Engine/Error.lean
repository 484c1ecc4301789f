import Phrasebook.Conversion.Apply
import Phrasebook.Template.Basic
import Phrasebook.Uncaught

/-! Why a substitution fails, and the conversion of one value with its handler of faults. -/

namespace Phrasebook

inductive SubstitutionError where
  | malformed (e : InlinePlural.Malformed)
  | positionalFromMapping (source : Text)
  | mappingRequired (source : Text)
  | keyNotFound (key : Text)
  | exhausted (source : Text) (given : Nat)
  | conversion (kind quoted : Text) (spec : Conversion) (fault : Conversion.Fault)
  | tooDeep (limit : Nat) (source : Text)
  | uncaught (fault : Uncaught)

open Text (lit quoted)

def Uncaught.message : Uncaught → Text
  | conversion fault => fault.message
  | plural fault => fault.message
  | unwritable => Digits.limitMessage none

namespace SubstitutionError

def message : SubstitutionError → Text
  | malformed e => e.message
  | positionalFromMapping source =>
    lit "positional placeholder " ++ quoted source ++ lit " cannot be filled from a mapping"
  | mappingRequired source =>
    lit "named placeholder " ++ quoted source ++ lit " requires a mapping argument"
  | keyNotFound key => lit "key<" ++ key ++ lit "> not found"
  | exhausted source given =>
    lit "too few arguments: placeholder " ++ quoted source ++ lit " needs value #" ++
      Text.numeral 10 (given + 1) ++ lit " but only " ++ Text.numeral 10 given ++ lit " given"
  | conversion kind value spec fault =>
    lit "cannot format " ++ kind ++ lit " value " ++ value ++ lit " with " ++
      quoted spec.pattern ++ lit ": " ++ fault.message
  | tooDeep limit source =>
    lit "pluralization nested deeper than " ++ Text.numeral 10 limit ++ lit " levels at " ++
      quoted source
  | uncaught fault => fault.message

end SubstitutionError

namespace Conversion

/-- The classes of faults that the handler takes. -/
def caught : List ErrorClass := [.type, .value, .overflow]

/-- The text of a value under a conversion.  The handler of faults quotes the value in its message,
and fails itself if the value cannot be quoted. -/
def sprintf (spec : Conversion) (v : Value) : Except SubstitutionError Text :=
  match spec.apply v with
  | .ok text => .ok text
  | .error fault =>
    if fault.errorClass ∈ caught then
      match v.quoted? with
      | some quoted => .error (.conversion v.kindName quoted spec fault)
      | none => .error (.uncaught .unwritable)
    else .error (.uncaught (.conversion fault))

end Conversion

end Phrasebook
