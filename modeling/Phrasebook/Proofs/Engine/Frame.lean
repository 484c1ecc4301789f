import Phrasebook.Proofs.Engine.History

/-! What work leaves alone.  An engine that meets requests keeps its terms and a faithful cache;
and in a session the other engines, the templates and the phrases stay what they are. -/

namespace Phrasebook

/-- The terms on which an engine fills templates. -/
structure Terms where
  settings : Settings
  classifier : Plural.Classifier

/-- A new engine on these terms. -/
def Terms.fresh (terms : Terms) : Engine := .create terms.settings terms.classifier

namespace Engine

def terms (e : Engine) : Terms := ⟨e.settings, e.classifier⟩

variable {e : Engine}

theorem terms_afterAll (e : Engine) (requests : List Request) :
    (e.afterAll requests).terms = e.terms := by
  induction requests generalizing e with
  | nil => rfl
  | cons request requests ih =>
    rw [afterAll, List.foldl_cons]
    refine (ih (e.after request)).trans ?_
    rw [after_eq]
    rfl

theorem faithful_afterAll (h : e.cache.Faithful) (requests : List Request) :
    (e.afterAll requests).cache.Faithful := by
  induction requests generalizing e with
  | nil => exact h
  | cons request requests ih =>
    have hrequest : (e.after request).cache.Faithful := by
      rw [after_eq]
      exact request.memory_agree (Cache.fetch_agree e.settings.cacheSize) e.settings e.classifier
        (n := ()) h
    exact ih hrequest

/-- What the cache holds makes no difference to an answer. -/
theorem format_eq_fresh (h : e.cache.Faithful) (source : Text) (argument : Value)
    (locale : Option Text) :
    (e.format source argument locale).1 = (e.terms.fresh.format source argument locale).1 := by
  have hfresh : e.terms.fresh.cache.Faithful := Cache.faithful_empty
  rw [(format_eq_evaluate h source argument locale).1,
    (format_eq_evaluate hfresh source argument locale).1]
  rfl

theorem formatTemplate_eq_fresh (h : e.cache.Faithful) (t : Template) (argument : Value)
    (locale : Option Text) :
    (e.formatTemplate t argument locale).1 =
      (e.terms.fresh.formatTemplate t argument locale).1 := by
  have hfresh : e.terms.fresh.cache.Faithful := Cache.faithful_empty
  rw [(formatTemplate_eq_evaluateTemplate h t argument locale).1,
    (formatTemplate_eq_evaluateTemplate hfresh t argument locale).1]
  rfl

theorem effectiveLocale_eq_ite (settings : Settings) (locale : Option Text) :
    effectiveLocale settings locale =
      if locale.getD [] = [] then settings.locale else locale.getD [] := by
  cases locale with
  | none => rfl
  | some given => cases given <;> rfl

theorem effectiveLocale_idem (settings : Settings) (locale : Option Text) :
    effectiveLocale settings (some (effectiveLocale settings locale)) =
      effectiveLocale settings locale := by
  by_cases hgiven : locale.getD [] = []
  · simp [effectiveLocale_eq_ite, hgiven]
  · simp [effectiveLocale_eq_ite, hgiven]

theorem formatTemplate_of_parse (h : e.cache.Faithful) {source : Text} {t : Template}
    (hparse : Template.parse source = .ok t) (argument : Value) (locale : Option Text) :
    (e.formatTemplate t argument locale).1 = (e.terms.fresh.format source argument locale).1 := by
  have hfresh : e.terms.fresh.cache.Faithful := Cache.faithful_empty
  rw [(formatTemplate_eq_evaluateTemplate h t argument locale).1,
    (format_eq_evaluate hfresh source argument locale).1, evaluate, hparse]
  rfl

end Engine

namespace BoundPhrase

/-- What a phrase is for good: all but its template, which may become known. -/
def binding (p : BoundPhrase) : Phrase × Nat := (p.phrase, p.engine)

/-- What is asked of the engine of a phrase to fill it. -/
def requests (p : BoundPhrase) (argument : Value) : List Request :=
  let fill (t : Template) := Request.formatTemplate t argument (some p.phrase.locale)
  match p.template with
  | some t => [fill t]
  | none =>
    match Template.parse p.phrase.base with
    | .error _ => [.template p.phrase.base]
    | .ok t => [.template p.phrase.base, fill t]

end BoundPhrase

namespace Session

variable {s after last : Session} {place k : Nat} {requests more : List Request}

/-! ### Engines by their places -/

theorem length_setEngine (s : Session) (place : Nat) (e : Engine) :
    (s.setEngine place e).others.length = s.others.length := by
  cases place with
  | zero => rfl
  | succ n => exact List.length_set

@[simp] theorem phrases_setEngine (s : Session) (place : Nat) (e : Engine) :
    (s.setEngine place e).phrases = s.phrases := by
  cases place <;> rfl

theorem engine_setEngine_self (h : place ≤ s.others.length) (e : Engine) :
    (s.setEngine place e).engine place = e := by
  cases place with
  | zero => rfl
  | succ n =>
    show (s.others.set n e).getD n s.own = e
    rw [List.getD_eq_getElem?_getD, List.getElem?_set_self h]
    rfl

theorem engine_setEngine_of_ne (h : k ≤ s.others.length) (hne : k ≠ place) (e : Engine) :
    (s.setEngine place e).engine k = s.engine k := by
  cases k with
  | zero =>
    cases place with
    | zero => exact absurd rfl hne
    | succ n => rfl
  | succ m =>
    cases place with
    | zero =>
      show s.others.getD m e = s.others.getD m s.own
      rw [List.getD_eq_getElem?_getD, List.getD_eq_getElem?_getD, List.getElem?_eq_getElem h]
      rfl
    | succ n =>
      show (s.others.set n e).getD m s.own = s.others.getD m s.own
      rw [List.getD_eq_getElem?_getD, List.getD_eq_getElem?_getD, List.getElem?_set_ne (by omega)]

theorem length_install (s : Session) (e : Engine) :
    (s.install e).others.length = s.others.length + 1 := List.length_append

theorem engine_install_self (s : Session) (e : Engine) :
    (s.install e).engine (s.others.length + 1) = e := by
  show (s.others ++ [e]).getD s.others.length s.own = e
  rw [List.getD_eq_getElem?_getD, List.getElem?_concat_length]
  rfl

theorem engine_install (h : k ≤ s.others.length) (e : Engine) :
    (s.install e).engine k = s.engine k := by
  cases k with
  | zero => rfl
  | succ n =>
    show (s.others ++ [e]).getD n s.own = s.others.getD n s.own
    rw [List.getD_eq_getElem?_getD, List.getD_eq_getElem?_getD, List.getElem?_append_left h]

/-! ### Sessions behind work of one engine -/

/-- `after` agrees with `s` on everything but the engine at `place`, which has met the requests, and
the templates known of phrases. -/
structure Frame (place : Nat) (requests : List Request) (s after : Session) : Prop where
  places : after.others.length = s.others.length
  current : after.current = s.current
  templates : after.templates = s.templates
  bindings : after.phrases.map BoundPhrase.binding = s.phrases.map BoundPhrase.binding
  engines : ∀ k ≤ s.others.length, k ≠ place → after.engine k = s.engine k
  engine : after.engine place = (s.engine place).afterAll requests

namespace Frame

theorem refl (place : Nat) (s : Session) : Frame place [] s s :=
  ⟨rfl, rfl, rfl, rfl, fun _ _ _ => rfl, rfl⟩

theorem trans (h : Frame place requests s after) (h' : Frame place more after last) :
    Frame place (requests ++ more) s last := by
  refine ⟨h'.places.trans h.places, h'.current.trans h.current, h'.templates.trans h.templates,
    h'.bindings.trans h.bindings, fun k hk hne => ?_, ?_⟩
  · have hk' : k ≤ after.others.length := by
      rw [h.places]
      exact hk
    exact (h'.engines k hk' hne).trans (h.engines k hk hne)
  · rw [h'.engine, h.engine, Engine.afterAll_append]

theorem setEngine (hplace : place ≤ s.others.length) (request : Request) :
    Frame place [request] s (s.setEngine place ((s.engine place).after request)) := by
  refine ⟨length_setEngine .., ?_, ?_, ?_, fun k hk hne => engine_setEngine_of_ne hk hne _,
    engine_setEngine_self hplace _⟩
  · cases place <;> rfl
  · cases place <;> rfl
  · cases place <;> rfl

/-- A phrase of which the template becomes known. -/
theorem know {index : Nat} {p : BoundPhrase} (h : s.phrases[index]? = some p) (t : Template)
    (place : Nat) :
    Frame place [] s { s with phrases := s.phrases.set index { p with template := some t } } := by
  refine ⟨rfl, rfl, rfl, ?_, fun _ _ _ => rfl, rfl⟩
  show (s.phrases.set index _).map BoundPhrase.binding = _
  have hbinding : (s.phrases.map BoundPhrase.binding)[index]? = some p.binding := by
    rw [List.getElem?_map, h]
    rfl
  obtain ⟨hindex, hbinding⟩ := List.getElem?_eq_some_iff.mp hbinding
  rw [List.map_set]
  exact hbinding ▸ List.set_getElem_self hindex

theorem terms (h : Frame place requests s after) (hk : k ≤ s.others.length) :
    (after.engine k).terms = (s.engine k).terms := by
  by_cases hne : k = place
  · subst hne
    rw [h.engine, Engine.terms_afterAll]
  · rw [h.engines k hk hne]

end Frame

/-! ### Sound sessions -/

/-- A phrase that a session may keep: its engine exists and reads its locale as it stands, and a
template that is known is the one of its base. -/
structure Keeps (s : Session) (p : BoundPhrase) : Prop where
  engine : p.engine ≤ s.others.length
  locale : Engine.effectiveLocale (s.engine p.engine).settings (some p.phrase.locale) =
    p.phrase.locale
  template : ∀ t, p.template = some t → Template.parse p.phrase.base = .ok t

/-- A session may still keep a phrase when its engine stays and others are added. -/
theorem Keeps.mono {p : BoundPhrase} (h : Keeps s p)
    (hplaces : s.others.length ≤ after.others.length)
    (hterms : (after.engine p.engine).terms = (s.engine p.engine).terms) : Keeps after p := by
  have hsettings : (after.engine p.engine).settings = (s.engine p.engine).settings :=
    congrArg Terms.settings hterms
  refine ⟨Nat.le_trans h.engine hplaces, ?_, h.template⟩
  rw [hsettings]
  exact h.locale

/-- A new phrase on an engine of the session is one that the session may keep. -/
theorem keeps_phrase (hplace : place ≤ s.others.length) (base : Text) (locale : Option Text) :
    Keeps s ⟨(s.engine place).phrase base locale, place, none⟩ :=
  ⟨hplace, Engine.effectiveLocale_idem _ locale, fun _ h => nomatch h⟩

/-- What steps keep true of a session. -/
structure Sound (s : Session) : Prop where
  caches : ∀ place ≤ s.others.length, (s.engine place).cache.Faithful
  current : ∀ place, s.current = some place → place ≤ s.others.length
  phrases : ∀ p ∈ s.phrases, Keeps s p

theorem sound_start (terms : Terms) : Sound (start terms.fresh) := by
  refine ⟨fun place hplace => ?_, fun _ h => (nomatch h), fun _ h => (nomatch h)⟩
  obtain rfl : place = 0 := Nat.le_zero.mp hplace
  exact Cache.faithful_empty

theorem Frame.sound (h : Frame place requests s after) (hs : Sound s)
    (htemplates : ∀ p ∈ after.phrases, ∀ t, p.template = some t →
      Template.parse p.phrase.base = .ok t) : Sound after := by
  have hplaces := h.places
  refine ⟨fun k hk => ?_, fun k hk => ?_, fun p hp => ?_⟩
  · rw [hplaces] at hk
    by_cases hne : k = place
    · subst hne
      rw [h.engine]
      exact Engine.faithful_afterAll (hs.caches k hk) requests
    · rw [h.engines k hk hne]
      exact hs.caches k hk
  · rw [h.current] at hk
    rw [hplaces]
    exact hs.current k hk
  · have hbinding : p.binding ∈ s.phrases.map BoundPhrase.binding := by
      rw [← h.bindings]
      exact List.mem_map_of_mem hp
    obtain ⟨q, hq, heq⟩ := List.mem_map.mp hbinding
    obtain ⟨hphrase, hengine⟩ := Prod.mk.inj heq
    have hterms := h.terms (hs.phrases q hq).engine
    have hkeeps := (hs.phrases q hq).mono (Nat.le_of_eq hplaces.symm) hterms
    refine ⟨?_, ?_, htemplates p hp⟩
    · rw [← hengine]
      exact hkeeps.engine
    · rw [← hengine, ← hphrase]
      exact hkeeps.locale

/-- A result in which the engine at `place` gives `answer`, by meeting the requests, and the session
is left sound. -/
structure Serves (place : Nat) (requests : List Request) (s : Session) (answer : Answer)
    (result : Outcome × Session) : Prop where
  outcome : result.1 = ofAnswer answer place
  frame : Frame place requests s result.2
  sound : Sound result.2

namespace Sound

variable {index : Nat} {p : BoundPhrase}

/-- The engine at a place may be exchanged for what a request makes of it. -/
theorem setEngine (hs : Sound s) (hplace : place ≤ s.others.length) (request : Request) :
    Sound (s.setEngine place ((s.engine place).after request)) := by
  refine (Frame.setEngine hplace request).sound hs fun p hp => ?_
  rw [phrases_setEngine] at hp
  exact (hs.phrases p hp).template

theorem formatOn (hs : Sound s) (hplace : place ≤ s.others.length) (source : Text)
    (argument : Value) (locale : Option Text) :
    Serves place [.format source argument locale] s
      ((s.engine place).terms.fresh.format source argument locale).1
      (s.formatOn place source argument locale) := by
  have hcache := hs.caches place hplace
  exact ⟨congrArg (ofAnswer · place) (Engine.format_eq_fresh hcache source argument locale),
    .setEngine hplace (.format source argument locale),
    hs.setEngine hplace (.format source argument locale)⟩

theorem formatTemplateOn (hs : Sound s) (hplace : place ≤ s.others.length) (t : Template)
    (argument : Value) (locale : Option Text) :
    Serves place [.formatTemplate t argument locale] s
      ((s.engine place).terms.fresh.formatTemplate t argument locale).1
      (s.formatTemplateOn place t argument locale) := by
  have hcache := hs.caches place hplace
  exact ⟨congrArg (ofAnswer · place) (Engine.formatTemplate_eq_fresh hcache t argument locale),
    .setEngine hplace (.formatTemplate t argument locale),
    hs.setEngine hplace (.formatTemplate t argument locale)⟩

/-- Where a text has a template, filling that is filling the text. -/
theorem formatTemplateOn_of_parse (hs : Sound s) (hplace : place ≤ s.others.length)
    {source : Text} {t : Template} (hparse : Template.parse source = .ok t) (argument : Value)
    (locale : Option Text) :
    Serves place [.formatTemplate t argument locale] s
      ((s.engine place).terms.fresh.format source argument locale).1
      (s.formatTemplateOn place t argument locale) := by
  have hserves := hs.formatTemplateOn hplace t argument locale
  have hcache := hs.caches place hplace
  refine ⟨?_, hserves.frame, hserves.sound⟩
  rw [hserves.outcome, ← Engine.formatTemplate_eq_fresh hcache,
    Engine.formatTemplate_of_parse hcache hparse]

/-- The template of a text comes from the session's own engine. -/
theorem template (hs : Sound s) (source : Text) :
    Frame 0 [.template source] s (s.setEngine 0 (s.own.template source).2) ∧
      Sound (s.setEngine 0 (s.own.template source).2) :=
  ⟨.setEngine (Nat.zero_le _) (.template source), hs.setEngine (Nat.zero_le _) (.template source)⟩

/-- The template of a phrase becomes known. -/
theorem know (hs : Sound s) (hp : s.phrases[index]? = some p) {t : Template}
    (hparse : Template.parse p.phrase.base = .ok t) :
    Sound { s with phrases := s.phrases.set index { p with template := some t } } := by
  refine (Frame.know hp t 0).sound hs fun q hq t' hq' => ?_
  rcases List.mem_or_eq_of_mem_set hq with hq | rfl
  · exact (hs.phrases q hq).template t' hq'
  · obtain rfl := Option.some.inj hq'
    exact hparse

/-- A kept phrase is filled as its base would be by a new engine on the terms of its own. -/
theorem formatPhrase (hs : Sound s) (hp : s.phrases[index]? = some p) (argument : Value) :
    Serves p.engine (p.requests argument) s ((s.engine p.engine).terms.fresh.format p.phrase.base
      argument (some p.phrase.locale)).1 (s.formatPhrase index argument) := by
  have hkeeps := hs.phrases p (List.mem_of_getElem? hp)
  have hcache := hs.caches p.engine hkeeps.engine
  unfold Session.formatPhrase BoundPhrase.requests
  cases htemplate : p.template with
  | some t =>
    simp only [hp, htemplate]
    exact hs.formatTemplateOn_of_parse hkeeps.engine (hkeeps.template t htemplate) argument _
  | none =>
    have hfound := (Engine.template_eq_parse hcache p.phrase.base).1
    have hframe := Frame.setEngine hkeeps.engine (.template p.phrase.base)
    have hsound := hs.setEngine hkeeps.engine (.template p.phrase.base)
    simp only [hp, htemplate]
    simp only [Engine.after] at hframe hsound
    generalize (s.engine p.engine).template p.phrase.base = found at hfound hframe hsound ⊢
    obtain ⟨found, e⟩ := found
    simp only at hfound hframe hsound
    cases hparse : Template.parse p.phrase.base with
    | error fault =>
      rw [hparse] at hfound
      subst hfound
      refine ⟨?_, hframe, hsound⟩
      have hfresh : (s.engine p.engine).terms.fresh.cache.Faithful := Cache.faithful_empty
      rw [(Engine.format_eq_evaluate hfresh _ _ _).1, Engine.evaluate, hparse]
      rfl
    | ok t =>
      rw [hparse] at hfound
      subst hfound
      have hp' : (s.setEngine p.engine e).phrases[index]? = some p := by
        rw [phrases_setEngine]
        exact hp
      have hknown := Frame.know hp' t p.engine
      have hplace : p.engine ≤ (s.setEngine p.engine e).others.length := by
        rw [hframe.places]
        exact hkeeps.engine
      have hserves := (hsound.know hp' hparse).formatTemplateOn_of_parse hplace hparse argument
        (some p.phrase.locale)
      refine ⟨?_, hframe.trans (hknown.trans hserves.frame), hserves.sound⟩
      rw [hserves.outcome, (hframe.trans hknown).terms hkeeps.engine]

end Sound

end Session

end Phrasebook
