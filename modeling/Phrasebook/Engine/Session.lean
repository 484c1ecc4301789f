import Phrasebook.Engine.Basic

/-! Sessions: engines, the templates and phrases that are kept, and the engine that is used where
none is named. -/

namespace Phrasebook

/-- A phrase with the engine that fills it, by its place in the session, and its template once that
is known. -/
structure BoundPhrase where
  phrase : Phrase
  engine : Nat
  template : Option Template

/-- The engines in the order in which they were made, the first of them the session's own, and what
is kept. -/
structure Session where
  own : Engine
  others : List Engine
  current : Option Nat
  templates : List Template
  phrases : List BoundPhrase

namespace Session

def start (own : Engine) : Session := ⟨own, [], none, [], []⟩

/-- The engine at a place; places that hold none stand for the session's own. -/
def engine (s : Session) : Nat → Engine
  | 0 => s.own
  | n + 1 => s.others.getD n s.own

def setEngine (s : Session) (place : Nat) (e : Engine) : Session :=
  match place with
  | 0 => { s with own := e }
  | n + 1 => { s with others := s.others.set n e }

/-- The session with one more engine, which is used from now on where none is named. -/
def install (s : Session) (e : Engine) : Session :=
  { s with others := s.others ++ [e], current := some (s.others.length + 1) }

/-- The place of the engine that is used where none is named; it is made when it is first needed. -/
def currentEngine [Locale.Catalog] (s : Session) : Nat × Session :=
  match s.current with
  | some place => (place, s)
  | none => (s.others.length + 1, s.install .usual)

/-- What a session is asked to do. -/
inductive Step where
  | template (source : Text)
  | hold (source : Text)
  | format (source : Text) (argument : Value) (locale : Option Text)
  | formatHeld (index : Nat) (argument : Value) (locale : Option Text)
  | phrase (base : Text) (locale : Option Text) (onCurrent : Bool)
  | formatPhrase (index : Nat) (argument : Value)
  | configure (fields : List (Text × Value)) (classifier : Plural.Classifier)
  | current
  | formatCurrent (source : Text) (argument : Value) (locale : Option Text)

/-- What a step gives. -/
inductive Reply where
  | template (t : Template)
  | index (n : Nat)
  | text (t : Text)
  | locale (l : Text)
  | installed (settings : Settings)
  | current (settings : Settings)

/-- Why a step gives nothing. -/
inductive Fault where
  | substitution (e : SubstitutionError)
  | settings (fault : Settings.Fault)
  | nothingKept (index : Nat)

/-- What a step gives, the notes it made, and the engine it used by its place. -/
structure Outcome where
  reply : Except Fault Reply
  notes : List Note
  used : Nat

/-- A step that fails before any engine is at work. -/
def refused (fault : Fault) (used : Nat) : Outcome := ⟨.error fault, [], used⟩

/-- The outcome of a call on the engine at a place. -/
def ofAnswer (answer : Answer) (used : Nat) : Outcome :=
  ⟨match answer.text with
    | .ok text => .ok (.text text)
    | .error e => .error (.substitution e), answer.notes, used⟩

/-- The template of a text from the session's own engine, handed to `keep`. -/
def withTemplate (s : Session) (source : Text) (keep : Session → Template → Reply × Session) :
    Outcome × Session :=
  let (found, e) := s.own.template source
  let s := s.setEngine 0 e
  match found with
  | .error e => (refused (.substitution (.malformed e)) 0, s)
  | .ok t => let (reply, s) := keep s t; (⟨.ok reply, [], 0⟩, s)

/-- A template text filled by the engine at a place. -/
def formatOn (s : Session) (place : Nat) (source : Text) (argument : Value)
    (locale : Option Text) : Outcome × Session :=
  let (answer, e) := (s.engine place).format source argument locale
  (ofAnswer answer place, s.setEngine place e)

/-- A template filled by the engine at a place. -/
def formatTemplateOn (s : Session) (place : Nat) (t : Template) (argument : Value)
    (locale : Option Text) : Outcome × Session :=
  let (answer, e) := (s.engine place).formatTemplate t argument locale
  (ofAnswer answer place, s.setEngine place e)

/-- A kept phrase filled by its engine, with its template if that is known. -/
def formatPhrase (s : Session) (index : Nat) (argument : Value) : Outcome × Session :=
  match s.phrases[index]? with
  | none => (refused (.nothingKept index) 0, s)
  | some p =>
    let locale := some p.phrase.locale
    match p.template with
    | some t => s.formatTemplateOn p.engine t argument locale
    | none =>
      let (found, e) := (s.engine p.engine).template p.phrase.base
      let s := s.setEngine p.engine e
      match found with
      | .error e => (refused (.substitution (.malformed e)) p.engine, s)
      | .ok t =>
        let s := { s with phrases := s.phrases.set index { p with template := some t } }
        s.formatTemplateOn p.engine t argument locale

def run [Locale.Catalog] (s : Session) : Step → Outcome × Session
  | .template source => s.withTemplate source fun s t => (.template t, s)
  | .hold source =>
    s.withTemplate source fun s t =>
      (.index s.templates.length, { s with templates := s.templates ++ [t] })
  | .format source argument locale => s.formatOn 0 source argument locale
  | .formatHeld index argument locale =>
    match s.templates[index]? with
    | none => (refused (.nothingKept index) 0, s)
    | some t => s.formatTemplateOn 0 t argument locale
  | .phrase base locale onCurrent =>
    let (place, s) := if onCurrent then s.currentEngine else (0, s)
    let phrase := (s.engine place).phrase base locale
    let kept : BoundPhrase := ⟨phrase, place, none⟩
    (⟨.ok (.locale phrase.locale), [], place⟩, { s with phrases := s.phrases ++ [kept] })
  | .formatPhrase index argument => s.formatPhrase index argument
  | .configure fields classifier =>
    match Settings.ofFields fields with
    | .error fault => (refused (.settings fault) 0, s)
    | .ok settings =>
      let s := s.install (.create settings classifier)
      (⟨.ok (.installed settings), [], s.others.length⟩, s)
  | .current =>
    let (place, s) := s.currentEngine
    (⟨.ok (.current (s.engine place).settings), [], place⟩, s)
  | .formatCurrent source argument locale =>
    let (place, s) := s.currentEngine
    s.formatOn place source argument locale

/-- A kept phrase made into another one, which is kept too: a new phrase on the engine of the kept
one, with its locale. -/
def derive (s : Session) (index : Nat) (d : Phrase.Derivation) :
    Option (Except Phrase.Fault Phrase) × Session :=
  match s.phrases[index]? with
  | none => (none, s)
  | some p =>
    match p.phrase.derived d with
    | .error fault => (some (.error fault), s)
    | .ok made =>
      let phrase := (s.engine p.engine).phrase made.base (some p.phrase.locale)
      let kept : BoundPhrase := ⟨phrase, p.engine, none⟩
      (some (.ok phrase), { s with phrases := s.phrases ++ [kept] })

/-- The texts of the templates that the engine at a place remembers. -/
def sources (s : Session) (place : Nat) : List Text := (s.engine place).cache.sources

end Session

end Phrasebook
