import Phrasebook.Document.Yaml.Numeral
import Phrasebook.Document.Yaml.Stamp

/-! Tags of YAML nodes: what kind of value a node stands for, as its tag says or as a plain scalar
shows. -/

namespace Phrasebook.Yaml

open Text (lit)

inductive Tag where
  | null
  | bool
  | integer
  | real
  | moment
  | text
  | bytes
  | merge
  | value
  | list
  | map
  | set
  | ordered
  | pairs
  | unknown
  deriving DecidableEq

namespace Tag

/-- How the names of all tags begin that are known here. -/
def standard : Text := lit "tag:yaml.org,2002:"

def names : List (Text × Tag) := [
  (lit "null", null), (lit "bool", bool), (lit "int", integer), (lit "float", real),
  (lit "timestamp", moment), (lit "str", text), (lit "binary", bytes), (lit "merge", merge),
  (lit "value", value), (lit "seq", list), (lit "map", map), (lit "set", set),
  (lit "omap", ordered), (lit "pairs", pairs)]

/-- The tag of a name. -/
def ofName (name : Text) : Tag :=
  ((Text.after? standard name).bind fun rest => names.lookup rest).getD unknown

/-- The words for truth values, in lower case. -/
def truthWords : List (Text × Bool) := [
  (lit "yes", true), (lit "no", false), (lit "true", true), (lit "false", false),
  (lit "on", true), (lit "off", false)]

/-- Whether a text is a word in lower case, in upper case, or with a capital at its start. -/
def isWordIn (words : List Text) (text : Text) : Bool :=
  words.contains (Text.asciiLower text) &&
    (text == Text.asciiLower text || text == Text.asciiUpper text ||
      text == Text.asciiUpper (text.take 1) ++ Text.asciiLower (text.drop 1))

/-- A text without the line feed at its end. -/
def withoutNewline (text : Text) : Text :=
  if text.getLast? = some '\n'.toNat then text.dropLast else text

/-- The tag of a scalar that is not empty and has none. -/
def ofWord (word : Text) : Tag :=
  if isWordIn (truthWords.map Prod.fst) word then bool
  else if isReal word then real
  else if isInteger word then integer
  else if word = lit "<<" then merge
  else if word = lit "~" || isWordIn [lit "null"] word then null
  else if Stamp.isPlain word then moment
  else if word = lit "=" then value
  else if [lit "!", lit "&", lit "*"].contains word then unknown
  else text

/-- The tag of a scalar that has none.  A line feed at its end is not looked at. -/
def ofScalar (scalar : Text) : Tag := if scalar = [] then null else ofWord (withoutNewline scalar)

end Tag

end Phrasebook.Yaml
