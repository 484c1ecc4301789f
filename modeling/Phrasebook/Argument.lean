import Phrasebook.Value

/-! What a template is filled with: values in order, or values by key. -/

namespace Phrasebook

inductive Argument where
  | positional (values : List Value)
  | keyed (entries : List (Value × Value))

namespace Argument

/-- A mapping gives values by key, a list or tuple values in order, and any other value is the only
one. -/
def ofValue : Value → Argument
  | .map entries => .keyed entries
  | .list items => .positional items
  | .tuple items => .positional items
  | v => .positional [v]

/-- The value behind the first `used` values, if there is one, and how many are used then. -/
def next (values : List Value) (used : Nat) : Option Value × Nat :=
  match values[used]? with
  | some v => (some v, used + 1)
  | none => (none, used)

end Argument

end Phrasebook
