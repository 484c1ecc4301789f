import Phrasebook.Locale.Known
import Phrasebook.Proofs.Engine.Choice

/-! Templates filled with values in order.  Each conversion takes the value at its place, plural
placeholders stay as they are written, and the leftmost segment that cannot be filled decides how
the call fails. -/

namespace Phrasebook

namespace Segment

def conversion? : Segment → Option Conversion
  | .positional spec => some spec
  | _ => none

/-- The conversions that take the next value, from left to right. -/
def conversions (segments : List Segment) : List Conversion := segments.filterMap conversion?

/-- Named placeholders, with a conversion or without, need a mapping. -/
def needsMapping : Segment → Bool
  | .named _ _ => true
  | .value _ => true
  | _ => false

/-- The text of the segments with the next of `texts` in the place of each conversion. -/
def woven : List Segment → List Text → Text
  | .positional _ :: segments, text :: texts => text ++ woven segments texts
  | s :: segments, texts => s.source ++ woven segments texts
  | [], _ => []

/-- The segment cannot be filled where `used` of the values are used before it. -/
inductive Breaks (values : List Value) (used : Nat) : Segment → SubstitutionError → Prop
  | named (key : Text) (spec : Option Conversion) :
      Breaks values used (.named key spec) (.mappingRequired (named key spec).source)
  | value (key : Text) : Breaks values used (.value key) (.mappingRequired (value key).source)
  | exhausted (spec : Conversion) : values.length ≤ used →
      Breaks values used (.positional spec) (.exhausted (positional spec).source values.length)
  | conversion {spec : Conversion} {v : Value} {e : SubstitutionError} :
      values[used]? = some v → spec.sprintf v = .error e → Breaks values used (.positional spec) e

/-- The leftmost of the segments that cannot be filled fails with the error. -/
inductive FirstBreaks (values : List Value) : Nat → List Segment → SubstitutionError → Prop
  | head {used : Nat} {s : Segment} {e : SubstitutionError} (segments : List Segment) :
      Breaks values used s e → FirstBreaks values used (s :: segments) e
  | tail {used : Nat} {s : Segment} {segments : List Segment} {e : SubstitutionError} :
      (∀ e', ¬Breaks values used s e') →
      FirstBreaks values (used + (conversions [s]).length) segments e →
      FirstBreaks values used (s :: segments) e

end Segment

/-- Each conversion turns the value at its place into the text at its place; values past the last
conversion are not looked at. -/
inductive Converts : List Conversion → List Value → List Text → Prop
  | nil (values : List Value) : Converts [] values []
  | cons {spec : Conversion} {v : Value} {text : Text} {specs : List Conversion}
      {values : List Value} {texts : List Text} : spec.apply v = .ok text →
      Converts specs values texts → Converts (spec :: specs) (v :: values) (text :: texts)

theorem exists_converts_iff {specs : List Conversion} {values : List Value} :
    (∃ texts, Converts specs values texts) ↔ specs.length ≤ values.length ∧
      ∀ (j : Nat) (spec : Conversion) (v : Value), specs[j]? = some spec → values[j]? = some v →
        ∃ text, spec.apply v = .ok text := by
  induction specs generalizing values with
  | nil => exact ⟨fun _ => ⟨Nat.zero_le _, fun _ _ _ h => nomatch h⟩, fun _ => ⟨[], .nil values⟩⟩
  | cons spec specs ih =>
    constructor
    · rintro ⟨texts, h⟩
      cases h with
      | @cons _ v text _ values texts happly h =>
        obtain ⟨hlength, hall⟩ := ih.mp ⟨texts, h⟩
        refine ⟨Nat.succ_le_succ hlength, fun j => ?_⟩
        cases j with
        | zero =>
          intro spec' v' hspec hv
          cases hspec
          cases hv
          exact ⟨text, happly⟩
        | succ j => exact hall j
    · rintro ⟨hlength, hall⟩
      obtain ⟨v, values, rfl⟩ :=
        List.exists_cons_of_length_pos (Nat.lt_of_lt_of_le specs.length.succ_pos hlength)
      obtain ⟨text, happly⟩ := hall 0 spec v rfl rfl
      obtain ⟨texts, h⟩ := ih.mpr ⟨Nat.le_of_succ_le_succ hlength, fun j => hall (j + 1)⟩
      exact ⟨text :: texts, .cons happly h⟩

/-- A conversion that takes the value at a place takes the values behind it to the others. -/
theorem Converts.drop_eq_cons {spec : Conversion} {specs : List Conversion} {values : List Value}
    {used : Nat} {texts : List Text} (h : Converts (spec :: specs) (values.drop used) texts) :
    ∃ v text texts', texts = text :: texts' ∧ values[used]? = some v ∧ spec.apply v = .ok text ∧
      Converts specs (values.drop (used + 1)) texts' := by
  generalize hvalues : values.drop used = left at h
  cases h with
  | @cons _ v text _ left texts happly h =>
    have hv : values[used]? = some v := by
      have hhead := congrArg (·[0]?) hvalues
      simpa using hhead
    have hleft : values.drop (used + 1) = left := by
      rw [← List.tail_drop, hvalues, List.tail_cons]
    exact ⟨v, text, texts, rfl, hv, happly, hleft ▸ h⟩

namespace Segment

theorem eq_positional {s : Segment} {spec : Conversion} (h : s.conversion? = some spec) :
    s = .positional spec := by
  cases s <;> cases h
  rfl

theorem conversions_positional (spec : Conversion) (segments : List Segment) :
    conversions (.positional spec :: segments) = spec :: conversions segments := rfl

theorem conversions_cons {s : Segment} (h : s.conversion? = none) (segments : List Segment) :
    conversions (s :: segments) = conversions segments := List.filterMap_cons_none h

theorem length_conversions_cons (s : Segment) (segments : List Segment) :
    (conversions (s :: segments)).length =
      (conversions [s]).length + (conversions segments).length := by
  unfold conversions
  rw [← List.length_append, ← List.filterMap_append, List.singleton_append]

theorem woven_cons {s : Segment} (h : s.conversion? = none) (segments : List Segment)
    (texts : List Text) : woven (s :: segments) texts = s.source ++ woven segments texts := by
  cases s with
  | positional spec => cases h
  | literal text => rfl
  | named key spec => rfl
  | value key => rfl
  | reference count rules => rfl
  | inline body plural => rfl

section

variable {values : List Value} {used : Nat}

theorem needsMapping_of_not_breaks {s : Segment} (hs : ∀ e, ¬Breaks values used s e) :
    s.needsMapping = false := by
  cases s with
  | named key spec => exact absurd (.named key spec) (hs _)
  | value key => exact absurd (.value key) (hs _)
  | literal text => rfl
  | positional spec => rfl
  | reference count rules => rfl
  | inline body plural => rfl

/-- A conversion that can be filled takes the next value. -/
theorem exists_apply_of_not_breaks {spec : Conversion}
    (hs : ∀ e, ¬Breaks values used (.positional spec) e) :
    ∃ v text, values[used]? = some v ∧ spec.apply v = .ok text := by
  cases hv : values[used]? with
  | none => exact absurd (.exhausted spec (List.getElem?_eq_none_iff.mp hv)) (hs _)
  | some v =>
    cases hsprintf : spec.sprintf v with
    | error e => exact absurd (.conversion hv hsprintf) (hs e)
    | ok text => exact ⟨v, text, rfl, Conversion.sprintf_eq_ok_iff.mp hsprintf⟩

end

/-- Either every segment can be filled, or one is the leftmost that cannot. -/
theorem converts_or_firstBreaks (values : List Value) (segments : List Segment) (used : Nat) :
    ((∀ s ∈ segments, needsMapping s = false) ∧
      ∃ texts, Converts (conversions segments) (values.drop used) texts) ∨
      ∃ e, FirstBreaks values used segments e := by
  induction segments generalizing used with
  | nil => exact .inl ⟨fun _ hs => (nomatch hs), [], .nil _⟩
  | cons s segments ih =>
    by_cases hs : ∃ e, Breaks values used s e
    · obtain ⟨e, hs⟩ := hs
      exact .inr ⟨e, .head segments hs⟩
    · have hs : ∀ e, ¬Breaks values used s e := not_exists.mp hs
      rcases ih (used + (conversions [s]).length) with ⟨hneeds, texts, hconverts⟩ | ⟨e, hfirst⟩
      · refine .inl ⟨List.forall_mem_cons.mpr ⟨needsMapping_of_not_breaks hs, hneeds⟩, ?_⟩
        cases hspec : s.conversion? with
        | none =>
          rw [conversions_cons hspec] at hconverts ⊢
          exact ⟨texts, hconverts⟩
        | some spec =>
          obtain rfl := eq_positional hspec
          obtain ⟨v, text, hv, happly⟩ := exists_apply_of_not_breaks hs
          obtain ⟨hlt, rfl⟩ := List.getElem?_eq_some_iff.mp hv
          rw [conversions_positional, List.drop_eq_getElem_cons hlt]
          exact ⟨text :: texts, .cons happly hconverts⟩
      · exact .inr ⟨e, .tail hs hfirst⟩

end Segment

namespace Rendering

open Segment (Breaks FirstBreaks conversions needsMapping woven)

section

variable {σ : Type} {setting : Setting} {values : List Value}
  {nested : Text → Text → Rendering σ Text} {p : Progress σ}

theorem run_nextValue (values : List Value) (p : Progress σ) :
    (nextValue values : Rendering σ (Option Value)).run.run p =
      (.ok (Argument.next values p.used).1,
        { p with used := (Argument.next values p.used).2 }) := rfl

theorem run_renderSegment_positional (h : setting.argument = .positional values)
    (spec : Conversion) : (renderSegment setting nested (.positional spec)).run.run p =
      match values[p.used]? with
      | some v => (convert spec v).run.run { p with used := p.used + 1 }
      | none => (.error (.exhausted (Segment.positional spec).source values.length), p) := by
  simp only [renderSegment, renderPositional, h]
  rw [run_bind, run_nextValue]
  unfold Argument.next
  cases values[p.used]? with
  | some v => rfl
  | none => rfl

theorem run_renderSegment_of_apply (h : setting.argument = .positional values)
    {spec : Conversion} {v : Value} {text : Text} (hv : values[p.used]? = some v)
    (happly : spec.apply v = .ok text) :
    (renderSegment setting nested (.positional spec)).run.run p =
      (.ok text, { p with used := p.used + 1 }) := by
  rw [run_renderSegment_positional h, hv]
  simp only [convert, Conversion.sprintf_eq_ok_iff.mpr happly]
  rfl

variable (nested) in
theorem run_renderSegment_of_breaks (h : setting.argument = .positional values) {s : Segment}
    {e : SubstitutionError} (hbreaks : Breaks values p.used s e) :
    ∃ q, (renderSegment setting nested s).run.run p = (.error e, q) := by
  cases hbreaks with
  | named key spec =>
    simp only [renderSegment, require, h]
    exact ⟨p, rfl⟩
  | value key =>
    simp only [renderSegment, require, h]
    exact ⟨p, rfl⟩
  | exhausted spec hused =>
    rw [run_renderSegment_positional h, List.getElem?_eq_none hused]
    exact ⟨p, rfl⟩
  | conversion hv hsprintf =>
    rw [run_renderSegment_positional h, hv]
    simp only [convert, hsprintf]
    exact ⟨_, rfl⟩

variable (nested) in
/-- Literal text and plural placeholders stay as they are written, and use no value. -/
theorem run_renderSegment_of_conversion?_eq_none (h : setting.argument = .positional values)
    {s : Segment} (hneeds : s.needsMapping = false) (hnone : s.conversion? = none) :
    ∃ q, (renderSegment setting nested s).run.run p = (.ok s.source, q) ∧ q.used = p.used := by
  cases s with
  | literal text => exact ⟨p, rfl, rfl⟩
  | positional spec => cases hnone
  | named key spec => cases hneeds
  | value key => cases hneeds
  | reference count rules =>
    simp only [renderSegment, renderPlural, h]
    exact ⟨_, rfl, rfl⟩
  | inline body plural =>
    simp only [renderSegment, renderPlural, h]
    exact ⟨_, rfl, rfl⟩

variable (nested) in
/-- A segment that can be filled uses a value if it is a conversion, and none otherwise. -/
theorem run_renderSegment_of_not_breaks (h : setting.argument = .positional values) {s : Segment}
    (hs : ∀ e, ¬Breaks values p.used s e) : ∃ text q,
      (renderSegment setting nested s).run.run p = (.ok text, q) ∧
        q.used = p.used + (conversions [s]).length := by
  cases hspec : s.conversion? with
  | none =>
    obtain ⟨q, hrun, hused⟩ := run_renderSegment_of_conversion?_eq_none nested (p := p) h
      (Segment.needsMapping_of_not_breaks hs) hspec
    rw [Segment.conversions_cons hspec]
    exact ⟨s.source, q, hrun, hused⟩
  | some spec =>
    obtain rfl := Segment.eq_positional hspec
    obtain ⟨v, text, hv, happly⟩ := Segment.exists_apply_of_not_breaks hs
    exact ⟨text, _, run_renderSegment_of_apply h hv happly, rfl⟩

theorem run_renderSegments_of_firstBreaks (h : setting.argument = .positional values)
    {segments : List Segment} {e : SubstitutionError}
    (hfirst : FirstBreaks values p.used segments e) :
    ∃ q, (renderSegments setting nested segments).run.run p = (.error e, q) := by
  generalize hused : p.used = used at hfirst
  induction hfirst generalizing p with
  | head segments hbreaks =>
    subst hused
    obtain ⟨q, hrun⟩ := run_renderSegment_of_breaks nested h hbreaks
    exact ⟨q, run_renderSegments_cons_eq_error_iff.mpr (.inl hrun)⟩
  | tail hs _ ih =>
    subst hused
    obtain ⟨text, p', hrun, hused⟩ := run_renderSegment_of_not_breaks nested h hs
    obtain ⟨q, hrest⟩ := ih hused
    exact ⟨q, run_renderSegments_cons_eq_error_iff.mpr (.inr ⟨text, p', hrun, hrest⟩)⟩

theorem run_renderSegments_of_converts (h : setting.argument = .positional values)
    {segments : List Segment} (hneeds : ∀ s ∈ segments, needsMapping s = false)
    {texts : List Text}
    (hconverts : Converts (conversions segments) (values.drop p.used) texts) :
    ∃ q, (renderSegments setting nested segments).run.run p = (.ok (woven segments texts), q) := by
  induction segments generalizing p texts with
  | nil => exact ⟨p, rfl⟩
  | cons s segments ih =>
    obtain ⟨hs, hothers⟩ := List.forall_mem_cons.mp hneeds
    cases hspec : s.conversion? with
    | none =>
      obtain ⟨p', hrun, hused⟩ :=
        run_renderSegment_of_conversion?_eq_none nested (p := p) h hs hspec
      rw [Segment.conversions_cons hspec, ← hused] at hconverts
      obtain ⟨q, hrest⟩ := ih hothers hconverts
      rw [Segment.woven_cons hspec]
      exact ⟨q, run_renderSegments_cons_eq_ok_iff.mpr ⟨_, p', _, hrun, hrest, rfl⟩⟩
    | some spec =>
      obtain rfl := Segment.eq_positional hspec
      rw [Segment.conversions_positional] at hconverts
      obtain ⟨v, text, texts, rfl, hv, happly, hconverts⟩ := hconverts.drop_eq_cons
      obtain ⟨q, hrest⟩ := ih (p := { p with used := p.used + 1 }) hothers hconverts
      exact ⟨q, run_renderSegments_cons_eq_ok_iff.mpr
        ⟨text, _, _, run_renderSegment_of_apply h hv happly, hrest, rfl⟩⟩

end

section

variable {σ : Type} {setting setting' : Setting} {values values' : List Value}
  {nested nested' : Text → Text → Rendering σ Text} {p q : Progress σ}

/-- Only conversions look at the values. -/
theorem renderSegment_of_conversion?_eq_none (h : setting.argument = .positional values)
    (h' : setting'.argument = .positional values') {s : Segment} (hnone : s.conversion? = none) :
    renderSegment setting nested s = renderSegment setting' nested' s := by
  cases s with
  | positional spec => cases hnone
  | literal text => rfl
  | named key spec => simp only [renderSegment, require, h, h']
  | value key => simp only [renderSegment, require, h, h']
  | reference count rules => simp only [renderSegment, renderPlural, h, h']
  | inline body plural => simp only [renderSegment, renderPlural, h, h']

variable (nested nested') in
/-- No template is ever chosen, and neither the locale nor the classifier is asked. -/
theorem renderSegments_eq_of_positional (h : setting.argument = .positional values)
    (h' : setting'.argument = .positional values) (segments : List Segment) :
    renderSegments setting nested segments = renderSegments setting' nested' segments := by
  induction segments with
  | nil => rfl
  | cons s segments ih =>
    have hs : renderSegment setting nested s = renderSegment setting' nested' s := by
      cases hspec : s.conversion? with
      | none => exact renderSegment_of_conversion?_eq_none h h' hspec
      | some spec =>
        obtain rfl := Segment.eq_positional hspec
        simp only [renderSegment, h, h']
    rw [renderSegments, renderSegments, hs, ih]

theorem used_of_run_renderSegment (h : setting.argument = .positional values) {s : Segment}
    {text : Text} (hrun : (renderSegment setting nested s).run.run p = (.ok text, q)) :
    q.used = p.used + (conversions [s]).length := by
  have hs : ∀ e, ¬Segment.Breaks values p.used s e := by
    intro e hbreaks
    obtain ⟨q', hrun'⟩ := run_renderSegment_of_breaks nested h hbreaks
    cases hrun.symm.trans hrun'
  obtain ⟨text', q', hrun', hused⟩ := run_renderSegment_of_not_breaks nested h hs
  cases hrun.symm.trans hrun'
  exact hused

/-- Values behind those that are used play no part. -/
theorem run_renderSegments_append {front back back' : List Value}
    (h : setting.argument = .positional (front ++ back))
    (h' : setting'.argument = .positional (front ++ back')) {segments : List Segment}
    (hused : p.used + (conversions segments).length ≤ front.length) :
    (renderSegments setting nested segments).run.run p =
      (renderSegments setting' nested' segments).run.run p := by
  induction segments generalizing p with
  | nil => rfl
  | cons s segments ih =>
    have hlength := Segment.length_conversions_cons s segments
    have hs : (renderSegment setting nested s).run.run p =
        (renderSegment setting' nested' s).run.run p := by
      cases hspec : s.conversion? with
      | none => rw [renderSegment_of_conversion?_eq_none h h' hspec]
      | some spec =>
        obtain rfl := Segment.eq_positional hspec
        have hlt : p.used < front.length := by
          rw [hlength, Segment.conversions_positional] at hused
          simp only [List.length_cons] at hused
          omega
        rw [run_renderSegment_positional h, run_renderSegment_positional h',
          List.getElem?_append_left hlt, List.getElem?_append_left hlt]
        rw [List.getElem?_eq_getElem hlt]
    rw [renderSegments, renderSegments, run_bind, run_bind, ← hs]
    rcases hrun : (renderSegment setting nested s).run.run p with ⟨e | text, q⟩
    · rfl
    · have hq := used_of_run_renderSegment h hrun
      simp only
      rw [run_bind, run_bind, ih (by omega)]

end

end Rendering

namespace Template

open Segment (FirstBreaks conversions needsMapping woven)

variable {setting : Setting} {values : List Value} {t : Template}

theorem text_filled_of_firstBreaks (h : setting.argument = .positional values)
    {e : SubstitutionError} (hfirst : FirstBreaks values 0 t.segments e) :
    (t.filled setting).text = .error e := by
  obtain ⟨q, hrun⟩ := Rendering.run_renderSegments_of_firstBreaks (p := ⟨(), [], 0⟩) h hfirst
  rw [text_filled_eq_outcome, Rendering.outcome, hrun]

theorem text_filled_of_converts (h : setting.argument = .positional values)
    (hneeds : ∀ s ∈ t.segments, needsMapping s = false) {texts : List Text}
    (hconverts : Converts (conversions t.segments) values texts) :
    (t.filled setting).text = .ok (woven t.segments texts) := by
  obtain ⟨q, hrun⟩ :=
    Rendering.run_renderSegments_of_converts (p := ⟨(), [], 0⟩) h hneeds hconverts
  rw [text_filled_eq_outcome, Rendering.outcome, hrun]

theorem text_filled_eq_ok_iff (h : setting.argument = .positional values) {text : Text} :
    (t.filled setting).text = .ok text ↔ (∀ s ∈ t.segments, needsMapping s = false) ∧
      ∃ texts, Converts (conversions t.segments) values texts ∧ text = woven t.segments texts := by
  constructor
  · intro hok
    rcases Segment.converts_or_firstBreaks values t.segments 0 with
      ⟨hneeds, texts, hconverts⟩ | ⟨e, hfirst⟩
    · refine ⟨hneeds, texts, hconverts, ?_⟩
      cases hok.symm.trans (text_filled_of_converts h hneeds hconverts)
      rfl
    · cases hok.symm.trans (text_filled_of_firstBreaks h hfirst)
  · rintro ⟨hneeds, texts, hconverts, rfl⟩
    exact text_filled_of_converts h hneeds hconverts

theorem text_filled_eq_error_iff (h : setting.argument = .positional values)
    {e : SubstitutionError} :
    (t.filled setting).text = .error e ↔ FirstBreaks values 0 t.segments e := by
  refine ⟨fun herror => ?_, text_filled_of_firstBreaks h⟩
  rcases Segment.converts_or_firstBreaks values t.segments 0 with
    ⟨hneeds, texts, hconverts⟩ | ⟨e', hfirst⟩
  · cases herror.symm.trans (text_filled_of_converts h hneeds hconverts)
  · cases herror.symm.trans (text_filled_of_firstBreaks h hfirst)
    exact hfirst

theorem exists_text_filled_iff (h : setting.argument = .positional values) :
    (∃ text, (t.filled setting).text = .ok text) ↔
      (∀ s ∈ t.segments, needsMapping s = false) ∧
      (conversions t.segments).length ≤ values.length ∧
      ∀ (j : Nat) (spec : Conversion) (v : Value), (conversions t.segments)[j]? = some spec →
        values[j]? = some v → ∃ text, spec.apply v = .ok text := by
  rw [← exists_converts_iff]
  constructor
  · rintro ⟨text, hok⟩
    obtain ⟨hneeds, texts, hconverts, -⟩ := (text_filled_eq_ok_iff h).mp hok
    exact ⟨hneeds, texts, hconverts⟩
  · rintro ⟨hneeds, texts, hconverts⟩
    exact ⟨_, text_filled_of_converts h hneeds hconverts⟩

/-- Values behind those that conversions take change neither the text nor the notes. -/
theorem filled_of_take_eq {setting' : Setting} {values' : List Value}
    (h : setting.argument = .positional values) (h' : setting'.argument = .positional values')
    (hlength : (conversions t.segments).length ≤ values.length)
    (htake : values'.take (conversions t.segments).length =
      values.take (conversions t.segments).length) : t.filled setting' = t.filled setting := by
  generalize hused : (conversions t.segments).length = used at hlength htake
  have hfront : setting.argument = .positional (values.take used ++ values.drop used) := by
    rw [h, List.take_append_drop]
  have hfront' : setting'.argument = .positional (values.take used ++ values'.drop used) := by
    rw [h', ← htake, List.take_append_drop]
  unfold filled Rendering.answer
  rw [Rendering.render_eq_below, Rendering.render_eq_below,
    Rendering.run_renderSegments_append hfront' hfront]
  simp only [hused, List.length_take, Nat.min_eq_left hlength, Nat.zero_add, Nat.le_refl]

end Template

namespace Engine

open Segment (FirstBreaks conversions needsMapping woven)

variable {v : Value} {values : List Value}

/-- Values in order leave the engine as it was, and only they decide the answer. -/
theorem formatTemplate_eq_of_positional {setting : Setting}
    (hv : Argument.ofValue v = .positional values) (h : setting.argument = .positional values)
    (e : Engine) (t : Template) (locale : Option Text) :
    e.formatTemplate t v locale = (t.filled setting, e) := by
  have hstep : Rendering.InStep (fun cache (_ : Unit) => cache = e.cache)
      (Rendering.render (Cache.fetch e.settings.cacheSize) (e.callSetting v locale)
        e.settings.maxDepth t) (Rendering.render Shelf.bare setting setting.limit t) := by
    -- No template is looked up, so both shelves may be left out.
    have hcall : (e.callSetting v locale).argument = .positional values := hv
    rw [Rendering.render_eq_below, Rendering.render_eq_below,
      Rendering.renderSegments_eq_of_positional _ (fun source _ => pure source) hcall h,
      Rendering.renderSegments_eq_of_positional (Rendering.below Shelf.bare setting setting.limit)
        (fun source _ => pure source) h h]
    exact Rendering.InStep.renderSegments (fun _ _ => Rendering.InStep.pure _) t.segments
  obtain ⟨hanswer, hcache⟩ := hstep.answer (m := e.cache) (n := ()) rfl
  refine Prod.ext hanswer ?_
  calc (e.formatTemplate t v locale).2
    _ = { e with cache := e.cache } := congrArg (Engine.mk e.settings e.classifier) hcache
    _ = e := rfl

/-- A template filled with values in order.  It can be filled exactly if no placeholder needs a
mapping, there is a value for each conversion, and each conversion takes the value at its place; its
text has what the conversions give in their places and all else as it is written.  Otherwise the
leftmost segment that cannot be filled fails.  Neither values behind those that are used nor the
engine, its locale or its earlier calls play a part. -/
theorem formatTemplate_positional (hv : Argument.ofValue v = .positional values) (e : Engine)
    (t : Template) (locale : Option Text) :
    let specs := conversions t.segments
    let answer := (e.formatTemplate t v locale).1
    ((∃ text, answer.text = .ok text) ↔
      (∀ s ∈ t.segments, needsMapping s = false) ∧ specs.length ≤ values.length ∧
      ∀ (j : Nat) (spec : Conversion) (w : Value), specs[j]? = some spec → values[j]? = some w →
        ∃ text, spec.apply w = .ok text) ∧
    (∀ text, answer.text = .ok text →
      ∃ texts, Converts specs values texts ∧ text = woven t.segments texts) ∧
    (∀ error, answer.text = .error error ↔ FirstBreaks values 0 t.segments error) ∧
    (∀ v' values', Argument.ofValue v' = .positional values' → specs.length ≤ values.length →
      values'.take specs.length = values.take specs.length →
        (e.formatTemplate t v' locale).1 = answer) ∧
    (e.formatTemplate t v locale).2 = e ∧
    (∀ (e' : Engine) locale', (e'.formatTemplate t v locale').1 = answer) ∧
    ∀ source (e' : Engine) locale', Template.parse source = .ok t → e'.Reachable →
      (e'.format source v locale').1 = answer := by
  intro specs answer
  have h : (e.callSetting v locale).argument = .positional values := hv
  have hanswer : ∀ (e' : Engine) locale',
      e'.formatTemplate t v locale' = (t.filled (e.callSetting v locale), e') :=
    fun e' locale' => formatTemplate_eq_of_positional hv h e' t locale'
  have hfilled : answer = t.filled (e.callSetting v locale) :=
    congrArg Prod.fst (hanswer e locale)
  rw [hfilled]
  refine ⟨Template.exists_text_filled_iff h, fun text hok => ?_,
    fun error => Template.text_filled_eq_error_iff h, fun v' values' hv' hlength htake => ?_,
    congrArg Prod.snd (hanswer e locale), fun e' locale' => congrArg Prod.fst (hanswer e' locale'),
    fun source e' locale' hparse he' => ?_⟩
  · exact ((Template.text_filled_eq_ok_iff h).mp hok).2
  · have h' : (e.callSetting v' locale).argument = .positional values' := hv'
    rw [formatTemplate_eq_of_positional hv' h' e t locale]
    exact Template.filled_of_take_eq h h' hlength htake
  · rw [he'.format_of_parse hparse, ← he'.formatTemplate_eq_filled, hanswer e' locale']

open Text (lit)

/-- One value is too few for two conversions, although the placeholder that follows them needs a
mapping. -/
theorem formatTemplate_positional_exhausted :
    (usual.format (lit "%s and %s%<k>") (.text (lit "a")) none).1.text =
      .error (.exhausted (lit "%s") 1) := by
  let t : Template := ⟨lit "%s and %s%<k>",
    [.positional .plain, .literal (lit " and "), .positional .plain, .named (lit "k") none]⟩
  have hparse : Template.parse (lit "%s and %s%<k>") = .ok t := by
    simp only [t]
    cbv
  obtain ⟨-, -, herror, -, -, -, hformat⟩ :=
    formatTemplate_positional (v := .text (lit "a")) rfl usual t none
  rw [hformat _ usual none hparse (.create _ _), herror]
  have hfirst : ∀ e, ¬Segment.Breaks [.text (lit "a")] 0 (.positional .plain) e := by
    intro e hbreaks
    cases hbreaks with
    | exhausted _ hused => cases hused
    | conversion hv hsprintf =>
      cases hv
      have hok : Conversion.plain.sprintf (.text (lit "a")) = .ok (lit "a") := rfl
      cases hok.symm.trans hsprintf
  have hliteral : ∀ e, ¬Segment.Breaks [.text (lit "a")] 1 (.literal (lit " and ")) e := by
    intro e hbreaks
    cases hbreaks
  exact .tail hfirst (.tail hliteral (.head _ (.exhausted .plain (by decide))))

end Engine

end Phrasebook
