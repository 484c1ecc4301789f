import Mathlib
import Phrasebook.Proofs.Engine.Keyed

/-! Inline plurals and plural references.  An inline plural and a reference to rules with the same
templates choose alike, so either may stand for the other wherever a template is filled. -/

namespace Phrasebook

namespace InlinePlural

/-- The rules bind the categories of the plural, each to its template, and no others. -/
def Matches (plural : InlinePlural) (rules : List (Value × Value)) : Prop :=
  ∀ tag, Value.lookup tag rules = (plural.categories.lookup tag).map .text

theorem lookup_map_text (tag : Text) (categories : List (Text × Text)) :
    Value.lookup tag (categories.map fun (tag, template) => (.text tag, .text template)) =
      (categories.lookup tag).map .text := by
  induction categories with
  | nil => rfl
  | cons category categories ih =>
    obtain ⟨found, template⟩ := category
    rw [List.map_cons, Value.lookup, List.lookup_cons, ih]
    by_cases hfound : found = tag
    · simp [hfound]
    · have hother : (tag == found) = false := by simpa using Ne.symm hfound
      rw [if_neg hfound, hother]

/-- The mapping that an inline plural stands for is one that matches it. -/
theorem matches_categories (plural : InlinePlural) :
    plural.Matches (plural.categories.map fun (tag, template) => (.text tag, .text template)) :=
  fun tag => lookup_map_text tag plural.categories

theorem Matches.templateFor {plural : InlinePlural} {rules : List (Value × Value)}
    (h : plural.Matches rules) (tag : Text) :
    Plural.templateFor rules tag = .ok (plural.categories.lookup tag) := by
  unfold Plural.templateFor
  rw [h tag]
  cases plural.categories.lookup tag <;> rfl

/-- Whatever the count and whatever the classifier says, the same template is selected. -/
theorem Matches.resolve {plural : InlinePlural} {rules : List (Value × Value)}
    (h : plural.Matches rules) (classifier : Plural.Classifier) (count : Value) (locale : Text) :
    Plural.resolve classifier count locale (.map rules) =
      Plural.resolve classifier count locale plural.categoryMap := by
  have hsame : Plural.templateFor rules = Plural.templateFor
      (plural.categories.map fun (tag, template) => (.text tag, .text template)) := by
    funext tag
    rw [h.templateFor, (matches_categories plural).templateFor]
  unfold Plural.resolve categoryMap
  cases count.count? with
  | none => rfl
  | some n => simp only [hsame]

end InlinePlural

/-- A reference to rules that match an inline plural chooses as the inline plural does. -/
theorem Setting.choice?_reference {setting : Setting} {entries rules : List (Value × Value)}
    {r : Text} {plural : InlinePlural} (hkeyed : setting.argument = .keyed entries)
    (hr : Value.lookup r entries = some (.map rules)) (hrules : plural.Matches rules)
    (body : Text) : setting.choice? (.reference plural.countKey r) =
      setting.choice? (.inline body plural) := by
  simp only [choice?, choice, hkeyed, hr]
  cases Value.lookup plural.countKey entries with
  | none => rfl
  | some count => simp only [hrules.resolve]

namespace Template

variable {setting : Setting} {entries : List (Value × Value)}

/-- The text of a template around one of its segments. -/
theorem text_filled_around (hkeyed : setting.argument = .keyed entries) {t : Template}
    {before after : List Segment} {s : Segment} (h : t.segments = before ++ s :: after) :
    (t.filled setting).text = do
      let first ← (filled setting ⟨[], before⟩).text
      let text ← (filled setting ⟨[], [s]⟩).text
      let last ← (filled setting ⟨[], after⟩).text
      return first ++ text ++ last := by
  rw [text_filled_append hkeyed ⟨[], before⟩ ⟨[], s :: after⟩ h,
    text_filled_append hkeyed (t := ⟨[], s :: after⟩) ⟨[], [s]⟩ ⟨[], after⟩ rfl]
  simp only [bind_assoc, pure_bind, List.append_assoc]

/-- Two placeholders that choose alike come to the same, or stay as they are written. -/
theorem text_filled_of_same_choice (hkeyed : setting.argument = .keyed entries)
    (hlimit : 0 < setting.limit) {s s' : Segment} {choice : Plural.Choice × List Note}
    (h : setting.choice? s = some choice) (h' : setting.choice? s' = some choice) :
    (∃ error, (filled setting ⟨[], [s]⟩).text = .error error ∧
      (filled setting ⟨[], [s']⟩).text = .error error) ∨
    (∃ chosen text, setting.chosen? s = some chosen ∧ setting.chosen? s' = some chosen ∧
      (filled setting ⟨[], [s]⟩).text = .ok text ∧
      (filled setting ⟨[], [s']⟩).text = .ok text) ∨
    setting.chosen? s = none ∧ setting.chosen? s' = none ∧
      (filled setting ⟨[], [s]⟩).text = .ok s.source ∧
      (filled setting ⟨[], [s']⟩).text = .ok s'.source := by
  obtain ⟨levels, hlevels⟩ := Nat.exists_eq_add_of_lt hlimit
  rw [Nat.zero_add] at hlevels
  rw [text_filled_of_choice? hkeyed rfl h, text_filled_of_choice? hkeyed rfl h', hlevels]
  obtain ⟨choice, notes⟩ := choice
  cases choice with
  | unchanged reason =>
    refine .inr (.inr ⟨?_, ?_, rfl, rfl⟩)
    · simp only [Setting.chosen?, h]
    · simp only [Setting.chosen?, h']
  | fault fault => exact .inl ⟨.uncaught fault, rfl, rfl⟩
  | template chosen =>
    -- Below the limit, what takes the place of a placeholder does not depend on its source.
    let nested := Rendering.below Shelf.bare setting (levels + 1)
    have hsame : Rendering.follow nested s'.source (.template chosen) =
      Rendering.follow nested s.source (.template chosen) := rfl
    rw [hsame]
    cases Rendering.outcome (Rendering.follow nested s.source (.template chosen)) with
    | error error => exact .inl ⟨error, rfl, rfl⟩
    | ok text =>
      exact .inr (.inl ⟨chosen, text, Setting.chosen?_eq_some_iff.mpr ⟨notes, h⟩,
        Setting.chosen?_eq_some_iff.mpr ⟨notes, h'⟩, rfl, rfl⟩)

end Template

namespace Engine

/-- An inline plural and a reference to rules that match it are the same to a template: it fails
with the same error, or with the same text if they choose a template, or else with texts that differ
in nothing but the placeholder that stays as it is written.  Limits are positive, so a placeholder
of the template itself is never refused. -/
theorem formatTemplate_reference {e : Engine} (he : e.Reachable)
    {entries rules : List (Value × Value)} {r body : Text} {plural : InlinePlural}
    (hr : Value.lookup r entries = some (.map rules)) (hrules : plural.Matches rules)
    {t t' : Template} {before after : List Segment}
    (ht : t.segments = before ++ .inline body plural :: after)
    (ht' : t'.segments = before ++ .reference plural.countKey r :: after)
    (locale : Option Text) :
    let chosen? := (e.callSetting (.map entries) locale).chosen?
    let text (t : Template) := (e.formatTemplate t (.map entries) locale).1.text
    let inline := Segment.inline body plural
    let reference := Segment.reference plural.countKey r
    (∃ error, text t = .error error ∧ text t' = .error error) ∨
    (∃ chosen result, chosen? inline = some chosen ∧ chosen? reference = some chosen ∧
      text t = .ok result ∧ text t' = .ok result) ∨
    ∃ first last, chosen? inline = none ∧ chosen? reference = none ∧
      text ⟨[], before⟩ = .ok first ∧ text ⟨[], after⟩ = .ok last ∧
      text t = .ok (first ++ inline.source ++ last) ∧
      text t' = .ok (first ++ reference.source ++ last) := by
  intro chosen? text inline reference
  have hkeyed : (e.callSetting (.map entries) locale).argument = .keyed entries := rfl
  have htext : ∀ t : Template, text t = (t.filled (e.callSetting (.map entries) locale)).text :=
    fun t => congrArg Answer.text (he.formatTemplate_eq_filled t (.map entries) locale)
  have hchoice := Setting.choice?_reference hkeyed hr hrules body
  have halone := Template.text_filled_of_same_choice hkeyed e.settings.maxDepth_pos
    (s := inline) rfl hchoice
  simp only [htext]
  rw [Template.text_filled_around hkeyed ht, Template.text_filled_around hkeyed ht']
  cases (Template.filled (e.callSetting (.map entries) locale) ⟨[], before⟩).text with
  | error error => exact .inl ⟨error, rfl, rfl⟩
  | ok first =>
    rcases halone with ⟨error, h, h'⟩ | ⟨chosen, middle, hchosen, hchosen', h, h'⟩ |
      ⟨hchosen, hchosen', h, h'⟩
    · rw [h, h']
      exact .inl ⟨error, rfl, rfl⟩
    · rw [h, h']
      cases (Template.filled (e.callSetting (.map entries) locale) ⟨[], after⟩).text with
      | error error => exact .inl ⟨error, rfl, rfl⟩
      | ok last => exact .inr (.inl ⟨chosen, _, hchosen, hchosen', rfl, rfl⟩)
    · rw [h, h']
      cases (Template.filled (e.callSetting (.map entries) locale) ⟨[], after⟩).text with
      | error error => exact .inl ⟨error, rfl, rfl⟩
      | ok last => exact .inr (.inr ⟨first, last, hchosen, hchosen', rfl, rfl, rfl, rfl⟩)

open Text (lit)

/-- An engine for which every count is one. -/
def singular : Engine := create .usual (.constant (lit "one"))

/-- The rules `r` bind to `one` what the inline plural binds, so that both are replaced with it. -/
theorem formatTemplate_reference_singular :
    let body := lit "\x7b\"n\": \x7b\"one\": \"x\"\x7d\x7d"
    let plural : InlinePlural := ⟨lit "n", [(lit "one", lit "x")]⟩
    let entries : List (Value × Value) := [(.text (lit "n"), .int 1),
      (.text (lit "r"), .map [(.text (lit "one"), .text (lit "x"))])]
    let text (s : Segment) :=
      (singular.formatTemplate ⟨[], [.literal (lit "1"), s]⟩ (.map entries) none).1.text
    text (.inline body plural) = .ok (lit "1x") ∧
      text (.reference (lit "n") (lit "r")) = .ok (lit "1x") := by
  intro body plural entries text
  have hinline : text (.inline body plural) = .ok (lit "1x") := by
    simp only [text, body, plural, entries]
    cbv
  have hr : Value.lookup (lit "r") entries =
    some (.map [(.text (lit "one"), .text (lit "x"))]) := rfl
  have ht : (⟨[], [.literal (lit "1"), .inline body plural]⟩ : Template).segments =
    [.literal (lit "1")] ++ .inline body plural :: [] := rfl
  have ht' : (⟨[], [.literal (lit "1"), .reference (lit "n") (lit "r")]⟩ : Template).segments =
    [.literal (lit "1")] ++ .reference plural.countKey (lit "r") :: [] := rfl
  have hsame :=
    formatTemplate_reference (e := singular) (.create _ _) hr plural.matches_categories ht ht' none
  refine ⟨hinline, ?_⟩
  rcases hsame with ⟨error, herror, -⟩ | ⟨chosen, result, -, -, hresult, hreference⟩ |
    ⟨first, last, hchosen, -⟩
  · cases hinline.symm.trans herror
  · cases hinline.symm.trans hresult
    exact hreference
  · have hx : (singular.callSetting (.map entries) none).chosen? (.inline body plural) =
      some (lit "x") := by cbv
    cases hx.symm.trans hchosen

end Engine

end Phrasebook
