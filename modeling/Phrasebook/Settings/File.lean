import Phrasebook.Document.Basic
import Phrasebook.Document.Json
import Phrasebook.Document.Toml.Basic
import Phrasebook.Document.Yaml.Basic
import Phrasebook.Settings
import Phrasebook.Text.LowerCase
import Phrasebook.Text.Utf8

/-! Settings files: the format by the ending of the name, the document, and the settings in it. -/

namespace Phrasebook.Settings.File

open Text (lit)

inductive Format where
  | json
  | yaml
  | toml
  deriving DecidableEq

/-- Why a file gives no settings. -/
inductive Fault where
  | absent (name : Text)
  | nameTooLong (path : Text)
  | unsupported (suffix : Text)
  | unavailable (format : Format)
  | encoding (fault : Utf8.Fault)
  | json (document : Text) (fault : Json.Fault)
  | yaml (fault : Yaml.Fault)
  | toml (fault : Toml.Fault)
  | noMapping (name : Text)
  | settings (fault : Settings.Fault)

/-- The parts of a path between slashes; single points among them lead nowhere. -/
def parts (path : Text) : List Text :=
  (Text.split '/'.toNat path).filter fun part => part ≠ [] && part ≠ lit "."

/-- A part that leads to the directory above. -/
def upwards : Text := lit ".."

/-- The last part of a path. -/
def baseName (path : Text) : Text := (parts path).getLast?.getD []

/-- A path without the parts that lead nowhere. -/
def cleaned (path : Text) : Text :=
  let root := if path.head? = some '/'.toNat then lit "/" else []
  if root ++ (parts path).flatten = [] then lit "." else root ++ (lit "/").intercalate (parts path)

/-- The greatest number of bytes in a part of a path. -/
def longestPart : Nat := 255

/-- The greatest number of bytes in a path. -/
def longestPath : Nat := 4095

/-- Whether the system refuses to look for a path.  Behind a part that is missing it looks for
nothing. -/
def isTooLong (path : Text) : Bool :=
  longestPath < Utf8.length (cleaned path) ||
    ((parts path).find? (· ≠ upwards)).any fun part => longestPart < Utf8.length part

/-- The last point of a name and what follows it, unless the point begins or ends the name. -/
def suffix (path : Text) : Text :=
  let name := baseName path
  let behind := (name.reverse.takeWhile (· != '.'.toNat)).length
  let place := name.length - behind - 1
  if behind = 0 ∨ place = 0 then [] else name.drop place

/-- The format of an ending in lower case. -/
def Format.ofSuffix? (suffix : Text) : Option Format :=
  if suffix = lit ".json" then some .json
  else if suffix = lit ".yaml" ∨ suffix = lit ".yml" then some .yaml
  else if suffix = lit ".toml" then some .toml
  else none

/-- The number of bytes that are read at a time where a document is not read as a whole. -/
def pieceSize : Nat := 8192

/-- Values of a document that stand for nothing, and so for no settings. -/
def isNothing : Value → Bool
  | .none => true
  | .bool b => !b
  | .int n => n == 0
  | .float (.finite _ mantissa _) => mantissa == 0
  | .text t => t.isEmpty
  | .list items => items.isEmpty
  | .tuple items => items.isEmpty
  | _ => false

/-- Two characters for the end of a line as one. -/
def joinedNewlines : Text → Text
  | [] => []
  | [c] => [c]
  | c :: d :: rest =>
    if c = '\r'.toNat ∧ d = '\n'.toNat then d :: joinedNewlines rest
    else c :: joinedNewlines (d :: rest)

/-- The value of a document in the language of a format. -/
def readContent (format : Format) (bytes : List Nat) : Except Fault Value := do
  match format with
  | .json =>
    let document := Document.universalNewlines (← (Utf8.decode bytes).mapError .encoding)
    (Json.read document).mapError (.json document)
  | .yaml =>
    let text ← (Utf8.decodeBy pieceSize bytes).mapError .encoding
    (Yaml.read (Document.universalNewlines text)).mapError .yaml
  | .toml =>
    let text ← (Utf8.decode bytes).mapError .encoding
    .map <$> (Toml.read (joinedNewlines text)).mapError .toml

/-- The value of a document in a format; nothing in a YAML document is a mapping without entries. -/
def readDocument (format : Format) (bytes : List Nat) : Except Fault Value := do
  let v ← readContent format bytes
  return if format = .yaml ∧ isNothing v then .map [] else v

/-- Why a file is not there.  Without a name of its own, a path leads to a directory. -/
def missing (name : Text) : Fault :=
  if isTooLong name then .nameTooLong (cleaned name)
  else if (parts name).all (· = upwards) then .unsupported []
  else .absent name

/-- The entries of the mapping that a file holds. -/
def readEntries (name : Text) (bytes : Option (List Nat)) (available : Format → Bool) :
    Except Fault (List (Value × Value)) := do
  match bytes with
  | none => throw (missing name)
  | some bytes =>
    let suffix := Text.lowerCase (suffix name)
    match Format.ofSuffix? suffix with
    | none => throw (.unsupported suffix)
    | some format =>
      if !available format then throw (.unavailable format)
      match ← readDocument format bytes with
      | .map entries => return entries
      | _ => throw (.noMapping name)

/-- The settings of a file whose bytes are given, unless there is no file; `available` says which
formats can be read. -/
def load (name : Text) (bytes : Option (List Nat)) (available : Format → Bool) :
    Except Fault Settings × List Note :=
  match readEntries name bytes available with
  | .error fault => (.error fault, [])
  | .ok entries =>
    let (settings, notes) := Settings.ofMapping entries
    (settings.mapError .settings, notes)

/-- What is wrong, in words, which some faults of YAML and TOML documents do not have. -/
def Fault.message? : Fault → Option Text
  | .absent name => some (lit "Config file not found: " ++ name)
  | .nameTooLong path => some (lit "[Errno 36] File name too long: " ++ Text.quoted path)
  | .unsupported suffix =>
    some (lit "Unsupported file format: " ++ suffix ++
      lit ". Supported formats: .json, .yaml, .yml, .toml")
  | .unavailable .toml =>
    some (lit "tomli is required for TOML support. Install with: pip install tomli")
  | .unavailable _ =>
    some (lit "PyYAML is required for YAML support. Install with: pip install pyyaml")
  | .encoding fault => some fault.message
  | .json document fault => some (Json.message document fault)
  | .yaml fault => fault.message?
  | .toml .malformed => none
  | .toml (.tooManyDigits count) => some (Digits.limitMessage (some count))
  | .noMapping name => some (lit "Config file " ++ name ++ lit " must contain a mapping")
  | .settings fault => some fault.message

end Phrasebook.Settings.File
