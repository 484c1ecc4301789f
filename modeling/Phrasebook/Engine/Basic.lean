import Phrasebook.Engine.Cache
import Phrasebook.Phrase
import Phrasebook.Settings

/-! Engines, which fill templates and remember those that they have parsed; and the same work done
without a memory.  The calls on an engine are made one after another: the locks around its memory are
left out, and so are the memories of locales and patterns, which no answer shows. -/

namespace Phrasebook

structure Engine where
  settings : Settings
  classifier : Plural.Classifier
  cache : Cache

namespace Engine

def create (settings : Settings) (classifier : Plural.Classifier) : Engine :=
  ⟨settings, classifier, .empty⟩

/-- The engine that is used where none has been made. -/
def usual [Locale.Catalog] : Engine := create .usual Plural.Classifier.byRules

/-- The locale of a call; a missing or empty one is the engine's. -/
def effectiveLocale (settings : Settings) : Option Text → Text
  | some (c :: rest) => c :: rest
  | _ => settings.locale

def setting (settings : Settings) (classifier : Plural.Classifier) (argument : Value)
    (locale : Option Text) : Setting :=
  ⟨.ofValue argument, effectiveLocale settings locale, classifier, settings.maxDepth⟩

/-- A phrase whose missing or empty locale is the engine's. -/
def phrase (engine : Engine) (base : Text) (locale : Option Text) : Phrase :=
  ⟨base, effectiveLocale engine.settings locale⟩

/-- The template of a text. -/
def template (engine : Engine) (source : Text) :
    Except InlinePlural.Malformed Template × Engine :=
  let (found, cache) := Cache.fetch engine.settings.cacheSize source engine.cache
  (found, { engine with cache })

/-- A call on an engine. -/
def run (engine : Engine) (step : Rendering Cache Text) : Answer × Engine :=
  let (answer, cache) := step.answer engine.cache
  (answer, { engine with cache })

/-- A template filled with a value. -/
def formatTemplate (engine : Engine) (t : Template) (argument : Value) (locale : Option Text) :
    Answer × Engine :=
  let setting := setting engine.settings engine.classifier argument locale
  engine.run (Rendering.render (Cache.fetch engine.settings.cacheSize) setting setting.limit t)

/-- A template text filled with a value. -/
def format (engine : Engine) (source : Text) (argument : Value) (locale : Option Text) :
    Answer × Engine :=
  let setting := setting engine.settings engine.classifier argument locale
  let shelf := Cache.fetch engine.settings.cacheSize
  engine.run do
    let t ← Rendering.fetch shelf source
    Rendering.render shelf setting setting.limit t

/-- A template filled with a value, where every text is parsed anew. -/
def evaluateTemplate (settings : Settings) (classifier : Plural.Classifier) (t : Template)
    (argument : Value) (locale : Option Text) : Answer :=
  let setting := setting settings classifier argument locale
  (Rendering.answer (Rendering.render Shelf.bare setting setting.limit t) ()).1

/-- A template text filled with a value, where every text is parsed anew. -/
def evaluate (settings : Settings) (classifier : Plural.Classifier) (source : Text)
    (argument : Value) (locale : Option Text) : Answer :=
  match Template.parse source with
  | .error e => ⟨.error (.malformed e), []⟩
  | .ok t => evaluateTemplate settings classifier t argument locale

end Engine

end Phrasebook
