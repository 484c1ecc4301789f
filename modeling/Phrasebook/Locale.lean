import Phrasebook.Locale.Identifier
import Phrasebook.Plural.Rule

/-! Locales, and how an identifier finds one among those that are known: under its own name, or under
a likely name that says more than the identifier does. -/

namespace Phrasebook

/-- The symbols that group digits and mark the decimals, and the plural rules. -/
structure Locale where
  name : Text
  group : Nat
  decimal : Nat
  rules : Plural.Rules

namespace Locale

open Text (isDigit lit)

/-- The two marks of a locale are told apart from each other, from digits and from signs. -/
structure Legible (locale : Locale) : Prop where
  group_ne_decimal : locale.group ≠ locale.decimal
  group_not_digit : isDigit locale.group = false
  decimal_not_digit : isDigit locale.decimal = false
  group_not_sign : locale.group ∉ lit "+-"
  decimal_not_sign : locale.decimal ∉ lit "+-"

/-- What is known of locales: their data under their names, codes for the parts of an identifier that
stand for other codes, and the likely identifiers for those that say less. -/
class Catalog where
  table : List Locale
  languages : List (Text × Text)
  scripts : List (Text × Text)
  territories : List (Text × Text)
  variants : List (Text × Text)
  likely : List (Text × Identifier)
  legible : ∀ row ∈ table, row.Legible
  coarse : ∀ row ∈ table, row.rules.Coarse

variable [catalog : Catalog]

/-- The locale that has the name of an identifier without its modifier, which stays in the name. -/
def load? (id : Identifier) : Option Locale :=
  (catalog.table.find? (·.name == id.core)).map fun row => { row with name := id.text }

/-- The locale of an identifier, or else of its language and territory alone. -/
def loadReduced? (id : Identifier) : Option Locale :=
  load? id <|> load? { id with script := [], variant := [], modifier := [] }

/-- The identifier with the codes that its own codes stand for.  The codes of unknown territories and
scripts are left out. -/
def renamed (id : Identifier) : Identifier :=
  let code (others : List (Text × Text)) (part : Text) : Text := (others.lookup part).getD part
  let known (unknown part : Text) : Text := if part = unknown then [] else part
  { id with
    language := code catalog.languages id.language
    script := known (lit "Zzzz") (code catalog.scripts id.script)
    territory := known (lit "ZZ") (code catalog.territories id.territory)
    variant := code catalog.variants id.variant }

/-- The locale that is likely for a whole identifier. -/
def likely? (id : Identifier) : Option Locale :=
  (catalog.likely.lookup id.text).bind loadReduced?

/-- The locale that is likely for the language of an identifier, in the territory of the
identifier. -/
def likelyOfLanguage? (id : Identifier) : Option Locale :=
  (catalog.likely.lookup id.language).bind fun likely =>
    loadReduced? { likely with territory := id.territory }

/-- The locale of an identifier, whose parts may be joined by hyphens or low lines. -/
def find (identifier : Text) : Except Fault Locale := do
  let id ← Identifier.parse (Text.replaced '-'.toNat '_'.toNat identifier)
  match load? id <|> likely? (renamed id) <|> likelyOfLanguage? (renamed id) with
  | some locale => return locale
  | none => throw (.unknown id.text)

end Locale

end Phrasebook
