import Phrasebook.Note

/-! Settings of an engine, and how they are read from a mapping. -/

namespace Phrasebook

/-- The locale that stands for a missing one, how deep plural placeholders may nest, and how many
templates are remembered. -/
structure Settings where
  locale : Text
  maxDepth : Nat
  cacheSize : Nat
  maxDepth_pos : 0 < maxDepth
  cacheSize_pos : 0 < cacheSize

namespace Settings

open Text (lit)

/-- The two settings that are positive numbers. -/
inductive Limit where
  | maxDepth
  | cacheSize
  deriving DecidableEq

def Limit.name : Limit → Text
  | maxDepth => lit "max_depth"
  | cacheSize => lit "cache_max_size"

/-- The limit that stands for a missing one. -/
def Limit.usual : Limit → Nat
  | maxDepth => 16
  | cacheSize => 2048

theorem Limit.usual_pos (limit : Limit) : 0 < limit.usual := by
  cases limit <;> decide

/-- Why no settings can be made.  Keys that are not text are faulted by their kinds. -/
inductive Fault where
  | emptyLocale
  | notPositive (limit : Limit)
  | keyNotText (kind : Text)
  | keysNotOrdered (left right : Text)
  | unknownName (name : Text)
  | notMapping (kind : Text)

def usualLocale : Text := lit "en"

def usual : Settings :=
  ⟨usualLocale, Limit.usual .maxDepth, Limit.usual .cacheSize, Limit.usual_pos _, Limit.usual_pos _⟩

/-- A number as a limit. -/
def positive (limit : Limit) (n : Int) : Except Fault { n : Nat // 0 < n } :=
  if h : 0 < n then .ok ⟨n.toNat, by omega⟩ else .error (.notPositive limit)

/-- Settings from numbers, of which the depth is looked at first. -/
def ofNumbers (locale : Text) (maxDepth cacheSize : Int) : Except Fault Settings := do
  let maxDepth ← positive .maxDepth maxDepth
  let cacheSize ← positive .cacheSize cacheSize
  return ⟨locale, maxDepth, cacheSize, maxDepth.2, cacheSize.2⟩

def localeName : Text := lit "default_locale"

/-- The locale that a mapping binds, which must be text and not empty. -/
def readLocale (entries : List (Value × Value)) : Except Fault Text :=
  match Value.lookup localeName entries with
  | none => .ok usualLocale
  | some (.text (c :: rest)) => .ok (c :: rest)
  | some _ => .error .emptyLocale

/-- The limit that a mapping binds, which must be a positive integer and no truth value. -/
def readLimit (limit : Limit) (entries : List (Value × Value)) :
    Except Fault { n : Nat // 0 < n } :=
  match Value.lookup limit.name entries with
  | none => .ok ⟨limit.usual, limit.usual_pos⟩
  | some (.int n) => positive limit n
  | some _ => .error (.notPositive limit)

/-- The settings that a mapping binds; keys that name no setting are not looked at. -/
def ofEntries (entries : List (Value × Value)) : Except Fault Settings := do
  let locale ← readLocale entries
  let maxDepth ← readLimit .maxDepth entries
  let cacheSize ← readLimit .cacheSize entries
  return ⟨locale, maxDepth, cacheSize, maxDepth.2, cacheSize.2⟩

/-- Whether a key names a setting. -/
def isKnown : Value → Bool
  | .text t => t == localeName || t == Limit.name .maxDepth || t == Limit.name .cacheSize
  | _ => false

/-- The settings that named values make, each of which must name a setting. -/
def ofFields (fields : List (Text × Value)) : Except Fault Settings :=
  match fields.find? fun field => !isKnown (.text field.1) with
  | some (name, _) => .error (.unknownName name)
  | none => ofEntries (fields.map fun (name, v) => (.text name, v))

/-- The key under which a mapping may hold the settings in a mapping of their own. -/
def sectionName : Text := lit "localized_format"

/-- The mapping that holds the settings. -/
def inSection (entries : List (Value × Value)) : List (Value × Value) :=
  match Value.lookup sectionName entries with
  | some (.map inner) => inner
  | _ => entries

/-- Whether a value is a number, as truth values are too. -/
def isNumber : Value → Bool
  | .int _ => true
  | .bool _ => true
  | .float _ => true
  | _ => false

/-- Whether there is an order between two values that are no text.  Moments have one if both are
dates, or if both or neither of them tell an offset. -/
def areOrdered : Value → Value → Bool
  | .moment (.date _), .moment (.date _) => true
  | .moment (.dateTime _ _ offset), .moment (.dateTime _ _ offset') =>
    offset.isSome == offset'.isSome
  | a, b => isNumber a && isNumber b

/-- The lesser one of two numbers, and the first one of other values. -/
def lesser : Value → Value → Value
  | .float (.infinity negative), b => if negative then .float (.infinity negative) else b
  | a, .float (.infinity negative) => if negative then .float (.infinity negative) else a
  | a, b =>
    match a.dyadic?, b.dyadic? with
    | some x, some y => if Value.dyadicLe x y then a else b
    | _, _ => a

/-- Why keys that are no text cannot be listed.  They are put in order first, if they have an order,
and the least of them is then faulted. -/
def unlistable (first : Value) (others : List Value) : Fault :=
  match others.find? fun other => !areOrdered first other with
  | some other => .keysNotOrdered first.kindName other.kindName
  | none => .keyNotText (others.foldl lesser first).kindName

/-- The keys that name no setting, in order.  Text cannot be ordered among other kinds, and other
kinds cannot be listed. -/
def unknownNames (entries : List (Value × Value)) : Except Fault (List Text) :=
  let unknown := (entries.map Prod.fst).filter fun key => !isKnown key
  let names := unknown.filterMap fun | .text t => some t | _ => none
  let others := unknown.filter fun | .text _ => false | _ => true
  match others, names with
  | [], names => .ok (names.mergeSort fun a b => !Text.before b a)
  | other :: others, [] => .error (unlistable other others)
  | other :: _, name :: _ => .error (.keysNotOrdered other.kindName (Value.text name).kindName)

/-- The settings of a mapping or of its section, with a note that lists unknown keys. -/
def ofMapping (entries : List (Value × Value)) : Except Fault Settings × List Note :=
  let entries := inSection entries
  match unknownNames entries with
  | .error fault => (.error fault, [])
  | .ok [] => (ofEntries entries, [])
  | .ok names => (ofEntries entries, [.unknownSettings names])

/-- The settings of a value, which must be a mapping. -/
def ofValue : Value → Except Fault Settings × List Note
  | .map entries => ofMapping entries
  | v => (.error (.notMapping v.fullKindName), [])

/-- That there is no order between values of two kinds. -/
def notOrdered (left right : Text) : Text :=
  let date := lit "datetime.date"
  let dateTime := lit "datetime.datetime"
  if left = dateTime ∧ right = dateTime then
    lit "can't compare offset-naive and offset-aware datetimes"
  else if (left = date ∨ left = dateTime) ∧ (right = date ∨ right = dateTime) then
    lit "can't compare datetime.datetime to datetime.date"
  else lit "'<' not supported between instances of '" ++ left ++ lit "' and '" ++ right ++ lit "'"

def Fault.message : Fault → Text
  | .emptyLocale => lit "default_locale must be a non-empty string"
  | .notPositive limit => limit.name ++ lit " must be a positive integer"
  | .keyNotText kind => lit "sequence item 0: expected str instance, " ++ kind ++ lit " found"
  | .keysNotOrdered left right => notOrdered left right
  | .unknownName name =>
    lit "FormatterConfig.__init__() got " ++
      (if name = lit "self" then lit "multiple values for argument '"
        else lit "an unexpected keyword argument '") ++ name ++ lit "'"
  | .notMapping kind => lit "'" ++ kind ++ lit "' object has no attribute 'get'"

end Settings

end Phrasebook
