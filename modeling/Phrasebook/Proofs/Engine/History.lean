import Phrasebook.Engine.Session
import Phrasebook.Proofs.Engine.Eviction

/-! Histories.  The calls on one engine, in any order and with any failures among them, have the
outcomes that the same calls have where nothing is remembered and every text is parsed anew. -/

namespace Phrasebook

theorem Template.source_of_parse {source : Text} {t : Template} (h : parse source = .ok t) :
    t.source = source := by
  unfold parse at h
  cases hsegments : (Piece.scan source).mapM Segment.ofPiece with
  | error e => rw [hsegments] at h; cases h
  | ok segments => rw [hsegments] at h; cases h; rfl

/-- What a caller asks of one engine; held templates are named by their places. -/
inductive Call where
  | template (source : Text)
  | hold (source : Text)
  | format (source : Text) (argument : Value) (locale : Option Text)
  | formatHeld (index : Nat) (argument : Value) (locale : Option Text)

namespace Call

def step : Call → Session.Step
  | template source => .template source
  | hold source => .hold source
  | format source argument locale => .format source argument locale
  | formatHeld index argument locale => .formatHeld index argument locale

/-- The outcome of parsing a text anew, with `reply` for its template. -/
def parseAnew (source : Text) (reply : Template → Session.Reply) : Session.Outcome :=
  match Template.parse source with
  | .ok t => ⟨.ok (reply t), [], 0⟩
  | .error e => Session.refused (.substitution (.malformed e)) 0

/-- The outcome of a call where no template is remembered: the caller holds texts, and each text,
held or chosen by a plural placeholder, is parsed where it is used. -/
def evaluate (settings : Settings) (classifier : Plural.Classifier) (held : List Text) :
    Call → Session.Outcome
  | template source => parseAnew source .template
  | hold source => parseAnew source fun _ => .index held.length
  | format source argument locale =>
    Session.ofAnswer (Engine.evaluate settings classifier source argument locale) 0
  | formatHeld index argument locale =>
    match held[index]? with
    | none => Session.refused (.nothingKept index) 0
    | some source =>
      Session.ofAnswer (Engine.evaluate settings classifier source argument locale) 0

/-- The texts that the caller holds after a call. -/
def held (before : List Text) : Call → List Text
  | hold source => if (Template.parse source).isOk then before ++ [source] else before
  | _ => before

/-- The outcomes of calls in turn where no template is remembered. -/
def evaluateAll (settings : Settings) (classifier : Plural.Classifier) :
    List Text → List Call → List Session.Outcome
  | _, [] => []
  | texts, call :: calls =>
    call.evaluate settings classifier texts ::
      evaluateAll settings classifier (call.held texts) calls

end Call

namespace Session

/-- The outcomes of steps taken in turn, and the session after them. -/
def runAll [Locale.Catalog] (s : Session) : List Step → List Outcome × Session
  | [] => ([], s)
  | step :: steps =>
    let (outcome, s) := s.run step
    let (outcomes, s) := s.runAll steps
    (outcome :: outcomes, s)

/-- A text that cannot be parsed changes nothing; the template of another is handed to `keep`. -/
theorem withTemplate_eq_parse {s : Session} (h : s.own.cache.Faithful) (source : Text)
    (keep : Session → Template → Reply × Session) :
    s.withTemplate source keep = match Template.parse source with
      | .ok t =>
        let found := s.setEngine 0 (s.own.template source).2
        (⟨.ok (keep found t).1, [], 0⟩, (keep found t).2)
      | .error fault => (refused (.substitution (.malformed fault)) 0, s) := by
  have hfound := (Engine.template_eq_parse h source).1
  unfold withTemplate
  cases hparse : Template.parse source with
  | error fault =>
    have htemplate : s.own.template source = (.error fault, s.own) :=
      Prod.ext (hfound.trans hparse) (Engine.template_eq_self hparse)
    rw [htemplate]
    rfl
  | ok t =>
    have htemplate : s.own.template source = (.ok t, (s.own.template source).2) :=
      Prod.ext (hfound.trans hparse) rfl
    rw [htemplate]

/-- The session's own engine has these settings, this classifier and a faithful cache, and the
templates kept are those of the texts `held`. -/
structure Recalls (settings : Settings) (classifier : Plural.Classifier) (held : List Text)
    (s : Session) : Prop where
  settings : s.own.settings = settings
  classifier : s.own.classifier = classifier
  cache : s.own.cache.Faithful
  templates : held.map Template.parse = s.templates.map .ok

namespace Recalls

variable {settings : Settings} {classifier : Plural.Classifier} {held : List Text} {s : Session}

theorem start (settings : Settings) (classifier : Plural.Classifier) :
    Recalls settings classifier [] (start (.create settings classifier)) :=
  ⟨rfl, rfl, Cache.faithful_empty, rfl⟩

theorem setEngine (h : Recalls settings classifier held s) {e : Engine}
    (he : Engine.Continues s.own e) : Recalls settings classifier held (s.setEngine 0 e) :=
  ⟨he.settings.trans h.settings, he.classifier.trans h.classifier, he.cache, h.templates⟩

/-- A place holds a template exactly if a text was held there. -/
theorem template_at (h : Recalls settings classifier held s) (index : Nat) :
    held[index]?.map Template.parse = s.templates[index]?.map .ok := by
  rw [← List.getElem?_map, ← List.getElem?_map, h.templates]

/-- Every template kept is the parse of a text held, so there are equally many. -/
theorem length_templates (h : Recalls settings classifier held s) :
    s.templates.length = held.length := by
  have := congrArg List.length h.templates
  simpa using this.symm

variable [Locale.Catalog]

theorem run_template (h : Recalls settings classifier held s) (source : Text) :
    (s.run (.template source)).1 = Call.parseAnew source .template ∧
      Recalls settings classifier held (s.run (.template source)).2 := by
  have he := (Engine.template_eq_parse h.cache source).2
  show (s.withTemplate source _).1 = _ ∧ Recalls _ _ _ (s.withTemplate source _).2
  rw [withTemplate_eq_parse h.cache, Call.parseAnew]
  cases Template.parse source with
  | error fault => exact ⟨rfl, h⟩
  | ok t => exact ⟨rfl, h.setEngine he⟩

theorem run_hold (h : Recalls settings classifier held s) (source : Text) :
    (s.run (.hold source)).1 = Call.parseAnew source (fun _ => .index held.length) ∧
      Recalls settings classifier (Call.held held (.hold source)) (s.run (.hold source)).2 := by
  have he := (Engine.template_eq_parse h.cache source).2
  show (s.withTemplate source _).1 = _ ∧ Recalls _ _ _ (s.withTemplate source _).2
  rw [withTemplate_eq_parse h.cache, Call.parseAnew, Call.held]
  cases hparse : Template.parse source with
  | error fault => exact ⟨rfl, h⟩
  | ok t =>
    refine ⟨?_, he.settings.trans h.settings, he.classifier.trans h.classifier, he.cache, ?_⟩
    · show Outcome.mk (.ok (.index s.templates.length)) [] 0 = _
      rw [h.length_templates]
    · show (held ++ [source]).map Template.parse = (s.templates ++ [t]).map .ok
      rw [List.map_append, List.map_append, h.templates, List.map_singleton, hparse]
      rfl

theorem run_format (h : Recalls settings classifier held s) (source : Text)
    (argument : Value) (locale : Option Text) :
    (s.run (.format source argument locale)).1 =
        ofAnswer (Engine.evaluate settings classifier source argument locale) 0 ∧
      Recalls settings classifier held (s.run (.format source argument locale)).2 := by
  obtain ⟨hanswer, hcontinues⟩ := Engine.format_eq_evaluate h.cache source argument locale
  rw [h.settings, h.classifier] at hanswer
  exact ⟨congrArg (ofAnswer · 0) hanswer, h.setEngine hcontinues⟩

theorem run_formatHeld (h : Recalls settings classifier held s) (index : Nat)
    (argument : Value) (locale : Option Text) :
    (s.run (.formatHeld index argument locale)).1 =
        (Call.formatHeld index argument locale).evaluate settings classifier held ∧
      Recalls settings classifier held (s.run (.formatHeld index argument locale)).2 := by
  have hplace := h.template_at index
  cases hheld : held[index]? with
  | none =>
    rw [hheld] at hplace
    have hkept : s.templates[index]? = none := Option.map_eq_none_iff.mp hplace.symm
    simp only [run, Call.evaluate, hheld, hkept]
    exact ⟨trivial, h⟩
  | some source =>
    rw [hheld] at hplace
    obtain ⟨t, hkept, hparse⟩ := Option.map_eq_some_iff.mp hplace.symm
    obtain ⟨hanswer, hcontinues⟩ :=
      Engine.formatTemplate_eq_evaluateTemplate h.cache t argument locale
    rw [h.settings, h.classifier] at hanswer
    simp only [run, Call.evaluate, hheld, hkept]
    refine ⟨?_, h.setEngine hcontinues⟩
    show ofAnswer (s.own.formatTemplate t argument locale).1 0 = _
    rw [hanswer, Engine.evaluate, ← hparse]

/-- A call has the outcome that it has where nothing is remembered. -/
theorem run_step (h : Recalls settings classifier held s) (call : Call) :
    (s.run call.step).1 = call.evaluate settings classifier held ∧
      Recalls settings classifier (call.held held) (s.run call.step).2 := by
  cases call with
  | template source => exact h.run_template source
  | hold source => exact h.run_hold source
  | format source argument locale => exact h.run_format source argument locale
  | formatHeld index argument locale => exact h.run_formatHeld index argument locale

theorem runAll_steps (h : Recalls settings classifier held s) (calls : List Call) :
    (s.runAll (calls.map Call.step)).1 = Call.evaluateAll settings classifier held calls ∧
      ∃ held', Recalls settings classifier held' (s.runAll (calls.map Call.step)).2 := by
  induction calls generalizing held s with
  | nil => exact ⟨rfl, held, h⟩
  | cons call calls ih =>
    obtain ⟨houtcome, hafter⟩ := h.run_step call
    obtain ⟨houtcomes, hlast⟩ := ih hafter
    refine ⟨?_, hlast⟩
    show (s.run call.step).1 :: ((s.run call.step).2.runAll (calls.map Call.step)).1 = _
    rw [houtcome, houtcomes, Call.evaluateAll]

/-- Filling a template that is kept is filling its text. -/
theorem formatHeld_eq_format (h : Recalls settings classifier held s) {index : Nat}
    {t : Template} (ht : s.templates[index]? = some t) (argument : Value)
    (locale : Option Text) :
    (s.run (.formatHeld index argument locale)).1 =
      (s.run (.format t.source argument locale)).1 := by
  have hplace := h.template_at index
  rw [ht] at hplace
  obtain ⟨source, hheld, hparse⟩ := Option.map_eq_some_iff.mp hplace
  rw [(h.run_formatHeld index argument locale).1, (h.run_format t.source argument locale).1,
    Template.source_of_parse hparse, Call.evaluate, hheld]

end Recalls

/-- The calls on a new engine have the outcomes that they have where nothing is remembered; and
after them, every template in the cache is the one that its text parses to, and every template
that is kept is filled as its text is. -/
theorem runAll_eq_evaluateAll [Locale.Catalog] (settings : Settings)
    (classifier : Plural.Classifier) (calls : List Call) :
    let run := (start (.create settings classifier)).runAll (calls.map Call.step)
    run.1 = Call.evaluateAll settings classifier [] calls ∧
      (∀ entry ∈ run.2.own.cache.entries, Template.parse entry.1 = .ok entry.2) ∧
      ∀ index t, run.2.templates[index]? = some t → ∀ argument locale,
        (run.2.run (.formatHeld index argument locale)).1 =
          (run.2.run (.format t.source argument locale)).1 := by
  obtain ⟨houtcomes, held, hafter⟩ := (Recalls.start settings classifier).runAll_steps calls
  exact ⟨houtcomes, hafter.cache, fun _ _ ht argument locale =>
    hafter.formatHeld_eq_format ht argument locale⟩

end Session

end Phrasebook
