import Phrasebook.Moment
import Phrasebook.Number.Decimal
import Phrasebook.Number.Notation
import Phrasebook.Text.Quoted

/-! The values that a phrase is filled with, and the two texts of a value: as it is shown and as it
is quoted inside a collection or a message. -/

namespace Phrasebook

inductive Value where
  | none
  | bool (b : Bool)
  | int (n : Int)
  | float (x : Binary64)
  | decimal (d : Decimal)
  | moment (m : Moment)
  | text (t : Text)
  | list (items : List Value)
  | tuple (items : List Value)
  | map (entries : List (Value × Value))
  deriving Inhabited

open Text (lit)

/-- The fewest digits that determine the number. -/
def Binary64.text : Binary64 → Text
  | .nan => lit "nan"
  | .infinity negative => Text.minus negative ++ lit "inf"
  | .finite negative mantissa exponent =>
    Text.minus negative ++ Notation.natural mantissa exponent

namespace Value

/-- The name of a value's kind in messages. -/
def kindName : Value → Text
  | .none => lit "NoneType"
  | .bool _ => lit "bool"
  | .int _ => lit "int"
  | .float _ => lit "float"
  | .decimal _ => lit "Decimal"
  | .moment m => m.kindName
  | .text _ => lit "str"
  | .list _ => lit "list"
  | .tuple _ => lit "tuple"
  | .map _ => lit "dict"

/-- The name of a value's kind where it is told apart from kinds of other origin. -/
def fullKindName : Value → Text
  | .decimal _ => lit "decimal.Decimal"
  | v => v.kindName

def commaSeparated (items : List Text) : Text := (lit ", ").intercalate items

mutual

/-- A value as it stands in a collection or a message: text is quoted and decimals are marked.  There
is no such text if an integer in the value has too many digits to be written. -/
def quoted? : Value → Option Text
  | .none => lit "None"
  | .bool b => lit (if b then "True" else "False")
  | .int n => if Digits.exceedsLimit n.natAbs then Option.none else Text.int n
  | .float x => x.text
  | .decimal d => lit "Decimal('" ++ d.text ++ lit "')"
  | .moment m => m.text
  | .text t => Text.quoted t
  | .list items =>
    (quotedItems? items).map fun texts => '['.toNat :: commaSeparated texts ++ [']'.toNat]
  | .tuple items =>
    (quotedItems? items).map fun texts =>
      '('.toNat :: commaSeparated texts ++ lit (if items.length = 1 then ",)" else ")")
  | .map entries =>
    (quotedEntries? entries).map fun texts => '{'.toNat :: commaSeparated texts ++ ['}'.toNat]

def quotedItems? : List Value → Option (List Text)
  | [] => some []
  | v :: items => do return (← quoted? v) :: (← quotedItems? items)

def quotedEntries? : List (Value × Value) → Option (List Text)
  | [] => some []
  | (k, v) :: entries => do
    return ((← quoted? k) ++ lit ": " ++ (← quoted? v)) :: (← quotedEntries? entries)

end

/-- A value as it is shown: text is itself, decimals are unmarked, all else is as quoted. -/
def shown? : Value → Option Text
  | .text t => t
  | .decimal d => d.text
  | v => v.quoted?

/-- What the first entry under the key `key` binds. -/
def lookup (key : Text) : List (Value × Value) → Option Value
  | [] => Option.none
  | (.text k, v) :: entries => if k = key then some v else lookup key entries
  | _ :: entries => lookup key entries

/-- An integer, a truth value or a finite binary number as `n * 2 ^ exponent`. -/
def dyadic? : Value → Option (Int × Int)
  | .int n => some (n, 0)
  | .bool b => some (b.toInt, 0)
  | .float (.finite negative mantissa exponent) => some (signed negative mantissa, exponent)
  | _ => Option.none

/-- Whether the first of two dyadic numbers is at most the second. -/
def dyadicLe (a b : Int × Int) : Bool :=
  let least := min a.2 b.2
  a.1 * Nat.pow 2 (a.2 - least).toNat ≤ b.1 * Nat.pow 2 (b.2 - least).toNat

/-- Whether two keys are the same, which is so if they are equal numbers or are quoted alike. -/
def sameKey : Value → Value → Bool
  | .text s, .text t => s == t
  | a, b =>
    match a.dyadic?, b.dyadic? with
    | some x, some y => dyadicLe x y && dyadicLe y x
    | _, _ => a.quoted?.isSome && a.quoted? == b.quoted?

/-- The entries with one more; a key bound before keeps its place. -/
def put (key v : Value) : List (Value × Value) → List (Value × Value)
  | [] => [(key, v)]
  | (k, old) :: entries =>
    if sameKey k key then (k, v) :: entries else (k, old) :: put key v entries

end Value

end Phrasebook
