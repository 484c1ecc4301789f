import Phrasebook.Plural.Count

/-! Plural rules: conditions on the digits of a count, and the plural category that they choose. -/

namespace Phrasebook.Plural

inductive Category where
  | few
  | many
  | one
  | two
  | zero
  | other
  deriving DecidableEq

def Category.name : Category → Text
  | few => Text.lit "few"
  | many => Text.lit "many"
  | one => Text.lit "one"
  | two => Text.lit "two"
  | zero => Text.lit "zero"
  | other => Text.lit "other"

/-- What a rule can ask of a count: its magnitude, its whole part, the number of its fraction digits
and their value, the same value without zeros at the end, and the exponent of compact notation. -/
inductive Operand where
  | n | i | v | f | t | e
  deriving DecidableEq

structure Operands where
  n : Quantity
  i : Nat
  v : Nat
  f : Nat
  t : Nat

/-- The digits behind the point: the last digits of the coefficient, or all of them if there are
fewer than the exponent asks for. -/
def fractionDigits : Quantity → List Nat
  | .whole _ => []
  | .decimal coefficient exponent =>
    let digits := Digits.ofNat 10 coefficient
    digits.drop (digits.length - (-exponent).toNat)

def Operands.ofQuantity (n : Quantity) : Operands :=
  let fraction := fractionDigits n
  { n
    i := n.wholePart
    v := fraction.length
    f := Digits.toNat 10 fraction
    t := Digits.toNat 10 (Digits.withoutTrailingZeros fraction) }

def Operands.get (o : Operands) : Operand → Quantity
  | .n => o.n
  | .i => .whole o.i
  | .v => .whole o.v
  | .f => .whole o.f
  | .t => .whole o.t
  | .e => .whole 0

/-- The remainder of a quantity. -/
def remainder (modulus : Nat) : Quantity → Except Fault Quantity
  | .whole n => .ok (.whole (n % modulus))
  | .decimal coefficient exponent =>
    let (num, den) := Scaled.fraction 10 coefficient exponent
    if Nat.pow 10 Decimal.precision ≤ num / (modulus * den) then .error .quotientTooLong
    else .ok (.decimal (num % (modulus * den)) (min exponent 0))

/-- An operand or its remainder by a modulus. -/
structure Term where
  operand : Operand
  modulus : Option Nat

def Term.value (o : Operands) (term : Term) : Except Fault Quantity :=
  match term.modulus with
  | none => .ok (o.get term.operand)
  | some modulus => remainder modulus (o.get term.operand)

/-- A term lies in one of some ranges of whole numbers, or does not. -/
structure Relation where
  term : Term
  inside : Bool
  ranges : List (Nat × Nat)

/-- Whether a quantity is a whole number in one of the ranges. -/
def inRanges (ranges : List (Nat × Nat)) (q : Quantity) : Bool :=
  q.whole?.any fun n => ranges.any fun (low, high) => low ≤ n && n ≤ high

def Relation.holds (o : Operands) (r : Relation) : Except Fault Bool := do
  let q ← r.term.value o
  return inRanges r.ranges q == r.inside

/-- Whether all relations hold; the first that does not settles it. -/
def allHold (o : Operands) : List Relation → Except Fault Bool
  | [] => .ok true
  | r :: rest => do
    if ← r.holds o then allHold o rest else return false

/-- Alternatives, each a list of relations that hold together. -/
abbrev Condition := List (List Relation)

/-- Whether one of the alternatives holds; the first that does settles it. -/
def Condition.holds (o : Operands) : Condition → Except Fault Bool
  | [] => .ok false
  | relations :: rest => do
    if ← allHold o relations then return true else Condition.holds o rest

/-- The categories of a language in the order in which they are tried. -/
abbrev Rules := List (Category × Condition)

/-- The first category whose condition holds, or else `other`. -/
def Rules.choose (o : Operands) : Rules → Except Fault Category
  | [] => .ok .other
  | (category, condition) :: rest => do
    if ← condition.holds o then return category else Rules.choose o rest

/-- Every modulus in the rules is ten or more. -/
def Rules.Coarse (rules : Rules) : Prop :=
  ∀ rule ∈ rules, ∀ relations ∈ rule.2, ∀ r ∈ relations, ∀ modulus ∈ r.term.modulus, 10 ≤ modulus

instance (rules : Rules) : Decidable rules.Coarse :=
  inferInstanceAs (Decidable (∀ rule ∈ rules, ∀ relations ∈ rule.2, ∀ r ∈ relations,
    ∀ modulus ∈ r.term.modulus, 10 ≤ modulus))

/-- The plural category of a count. -/
def Rules.category (rules : Rules) (count : Count) : Except Fault Category :=
  count.magnitude.bind fun magnitude => rules.choose (.ofQuantity magnitude)

namespace Term

def n : Term := ⟨.n, none⟩

def i : Term := ⟨.i, none⟩

def v : Term := ⟨.v, none⟩

def f : Term := ⟨.f, none⟩

def t : Term := ⟨.t, none⟩

def e : Term := ⟨.e, none⟩

def mod (term : Term) (modulus : Nat) : Term := { term with modulus := some modulus }

def isIn (term : Term) (ranges : List (Nat × Nat)) : Relation := ⟨term, true, ranges⟩

def isNotIn (term : Term) (ranges : List (Nat × Nat)) : Relation := ⟨term, false, ranges⟩

def eq (term : Term) (n : Nat) : Relation := term.isIn [(n, n)]

def ne (term : Term) (n : Nat) : Relation := term.isNotIn [(n, n)]

end Term

end Phrasebook.Plural
