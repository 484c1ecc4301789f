import Phrasebook.Note
import Phrasebook.Uncaught

/-! Classifiers, which name the plural category of a count in a locale, and the template that a
category map holds for a count. -/

namespace Phrasebook.Plural

/-- The name of a category, or why there is none, and the notes made on the way. -/
structure Ruling where
  tag : Except Fault Text
  notes : List Note

/-- What names the category of a count in a locale. -/
abbrev Classifier := Count → Text → Ruling

namespace Classifier

/-- The category by the plural rules of the locale.  A locale that is not known has a category for
one and one for all other counts. -/
def byRules [Locale.Catalog] : Classifier := fun count locale =>
  match Locale.find locale with
  | .error fault =>
    ⟨count.isUnit.map fun unit => (if unit then Category.one else Category.other).name,
      [.unknownLocale locale fault]⟩
  | .ok found => ⟨(found.rules.category count).map Category.name, []⟩

/-- A category for exactly one and a category for all other counts. -/
def oneOrOther : Classifier := fun count _ =>
  ⟨.ok (if count.isOne then Category.one else Category.other).name, []⟩

/-- The locale itself. -/
def localeItself : Classifier := fun _ locale => ⟨.ok locale, []⟩

def constant (tag : Text) : Classifier := fun _ _ => ⟨.ok tag, []⟩

end Classifier

/-- The category of any value by the plural rules of a locale: what is no count is `other`. -/
def categoryOf [Locale.Catalog] (v : Value) (locale : Text) : Ruling :=
  match v.count? with
  | none => ⟨.ok Category.other.name, []⟩
  | some count => Classifier.byRules count locale

/-- The template that a mapping binds to a tag, unless it binds none or nothing at all.  Any value
is shown as a text, which can fail. -/
def templateFor (entries : List (Value × Value)) (tag : Text) : Except Uncaught (Option Text) :=
  match Value.lookup tag entries with
  | none => .ok none
  | some .none => .ok none
  | some v => v.written.map some

/-- The template that `categories` holds for the category of `count`, if both are of use. -/
def resolve (classifier : Classifier) (count : Value) (locale : Text) (categories : Value) :
    Except Uncaught (Option Text) × List Note :=
  match count.count?, categories with
  | some count, .map entries =>
    let ruling := classifier count locale
    ((ruling.tag.mapError .plural).bind (templateFor entries), ruling.notes)
  | _, _ => (.ok none, [])

end Phrasebook.Plural
