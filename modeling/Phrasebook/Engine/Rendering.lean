import Phrasebook.Argument
import Phrasebook.Engine.Error
import Phrasebook.Plural.Classifier

/-! Rendering: the segments of a template filled from left to right, with the sub-templates that
plural placeholders choose rendered in their place. -/

namespace Phrasebook

/-- How a template text becomes a template, given what is remembered and changing it. -/
abbrev Shelf (σ : Type) := Text → σ → Except InlinePlural.Malformed Template × σ

/-- The shelf that remembers nothing. -/
def Shelf.bare : Shelf Unit := fun source memory => (Template.parse source, memory)

/-- What one call fixes: the argument, the locale, the classifier, and how deep plural placeholders
may nest. -/
structure Setting where
  argument : Argument
  locale : Text
  classifier : Plural.Classifier
  limit : Nat

/-- What a call changes: what the shelf remembers, the notes made so far, and how many values are
used. -/
structure Progress (σ : Type) where
  memory : σ
  notes : List Note
  used : Nat

/-- A step of a call.  What it changed remains when it fails. -/
abbrev Rendering (σ : Type) := ExceptT SubstitutionError (StateM (Progress σ))

namespace Rendering

variable {σ : Type}

def note (notes : List Note) : Rendering σ Unit :=
  modify fun p => { p with notes := p.notes ++ notes }

/-- The next value of a positional argument. -/
def nextValue (values : List Value) : Rendering σ (Option Value) :=
  modifyGet fun p =>
    let (v, used) := Argument.next values p.used
    (v, { p with used })

/-- The template of a text from the shelf. -/
def fetch (shelf : Shelf σ) (source : Text) : Rendering σ Template := do
  let found ← modifyGet fun p =>
    let (found, memory) := shelf source p.memory
    (found, { p with memory })
  match found with
  | .ok t => return t
  | .error e => throw (.malformed e)

def convert (spec : Conversion) (v : Value) : Rendering σ Text :=
  match spec.sprintf v with
  | .ok text => return text
  | .error e => throw e

/-- A value as it is shown. -/
def display (v : Value) : Rendering σ Text :=
  match v.written with
  | .ok text => return text
  | .error fault => throw (.uncaught fault)

/-- The value under a key that a placeholder must have. -/
def require (argument : Argument) (key source : Text) : Rendering σ Value :=
  match argument with
  | .positional _ => throw (.mappingRequired source)
  | .keyed entries =>
    match Value.lookup key entries with
    | some v => return v
    | none => throw (.keyNotFound key)

def renderPositional (argument : Argument) (spec : Conversion) (source : Text) :
    Rendering σ Text :=
  match argument with
  | .keyed _ => throw (.positionalFromMapping source)
  | .positional values => do
    match ← nextValue values with
    | some v => convert spec v
    | none => throw (.exhausted source values.length)

/-- A placeholder left as it is written, with a note. -/
def leave (source : Text) (reason : Note) : Rendering σ Text := do
  note [reason]
  return source

/-- A plural placeholder: the template that `categories` holds for the count under `countKey`,
rendered by `nested`, or the placeholder itself. -/
def renderPlural (setting : Setting) (nested : Text → Text → Rendering σ Text) (source : Text)
    (countKey : Text) (categories : List (Value × Value) → Option Value) : Rendering σ Text :=
  match setting.argument with
  | .positional _ => leave source (.noMapping source)
  | .keyed entries =>
    match Value.lookup countKey entries, categories entries with
    | some count, some categories => do
      let (selected, notes) :=
        Plural.resolve setting.classifier count setting.locale categories
      note notes
      match selected with
      | .error fault => throw (.uncaught fault)
      | .ok none => leave source (.noCategory source count)
      | .ok (some template) => nested source template
    | _, _ => leave source (.missingData source)

/-- One segment, where `nested` renders the template text that the placeholder `source` chose. -/
def renderSegment (setting : Setting) (nested : Text → Text → Rendering σ Text) (s : Segment) :
    Rendering σ Text :=
  match s with
  | .literal text => return text
  | .positional spec => renderPositional setting.argument spec s.source
  | .named key spec => do
    convert (spec.getD .plain) (← require setting.argument key s.source)
  | .value key => do display (← require setting.argument key s.source)
  | .reference count rules => renderPlural setting nested s.source count (Value.lookup rules)
  | .inline _ plural =>
    renderPlural setting nested s.source plural.countKey fun _ => some plural.categoryMap

def renderSegments (setting : Setting) (nested : Text → Text → Rendering σ Text) :
    List Segment → Rendering σ Text
  | [] => return []
  | s :: segments => do
    let text ← renderSegment setting nested s
    return text ++ (← renderSegments setting nested segments)

/-- The text of a template in which plural placeholders may nest `levels` deep. -/
def render (shelf : Shelf σ) (setting : Setting) : Nat → Template → Rendering σ Text
  | 0, t =>
    renderSegments setting (fun source _ => throw (.tooDeep setting.limit source)) t.segments
  | levels + 1, t =>
    renderSegments setting
      (fun _ chosen => do render shelf setting levels (← fetch shelf chosen)) t.segments

end Rendering

/-- The answer of a call and the notes it made. -/
structure Answer where
  text : Except SubstitutionError Text
  notes : List Note

namespace Rendering

variable {σ : Type}

/-- The answer of a step, and what is remembered after it. -/
def answer (step : Rendering σ Text) (memory : σ) : Answer × σ :=
  let (text, progress) := step.run.run ⟨memory, [], 0⟩
  (⟨text, progress.notes⟩, progress.memory)

end Rendering

end Phrasebook
