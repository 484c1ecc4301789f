import Phrasebook.Locale
import Phrasebook.Value

/-! Notes: what the library reports beside its answers. -/

namespace Phrasebook

inductive Note where
  | noMapping (source : Text)
  | missingData (source : Text)
  | noCategory (source : Text) (count : Value)
  | unknownLocale (locale : Text) (fault : Locale.Fault)
  | unknownSettings (names : List Text)

/-- How much a note matters. -/
inductive Note.Level where
  | debug
  | warning
  deriving DecidableEq

namespace Note

open Text (lit)

def level : Note → Level
  | noMapping _ => .debug
  | missingData _ => .debug
  | noCategory _ _ => .debug
  | unknownLocale _ _ => .warning
  | unknownSettings _ => .warning

/-- That the placeholder `source` stays as it is written. -/
def unchanged (source reason : Text) : Text :=
  lit "Pluralization placeholder '" ++ source ++ lit "' left unchanged: " ++ reason

/-- The text of a note.  There is none if it is about a count that cannot be written. -/
def message? : Note → Option Text
  | noMapping source => unchanged source (lit "no mapping given")
  | missingData source => unchanged source (lit "missing data")
  | noCategory source count =>
    count.quoted?.map fun quoted => unchanged source (lit "no category for " ++ quoted)
  | unknownLocale locale fault =>
    lit "Unknown locale '" ++ locale ++ lit "' for plural rules, using one/other - " ++ fault.message
  | unknownSettings names =>
    lit "Ignoring unknown formatter settings: " ++ (lit ", ").intercalate names

end Note

end Phrasebook
