import Phrasebook.Proofs.Engine.Frame

/-! Sessions without memories.  Whatever happens in a session, what is shown of it is what is shown
where no engine remembers a template; and what was there of engines and phrases is still there. -/

namespace Phrasebook

theorem Phrase.locale_of_derived {p made : Phrase} {d : Derivation} (h : p.derived d = .ok made) :
    made.locale = p.locale := by
  cases d with
  | normalize name =>
    change (normalForm p.base name).map ({ p with base := · }) = .ok made at h
    cases hbase : normalForm p.base name with
    | error fault =>
      rw [hbase] at h
      cases h
    | ok base =>
      rw [hbase] at h
      cases h
      rfl
  | caseFold turkic =>
    obtain rfl := Except.ok.inj h
    rfl

namespace Session

/-- What may happen in a session: a step is taken, or a kept phrase is made into another one. -/
inductive Event where
  | step (step : Step)
  | derive (index : Nat) (d : Phrase.Derivation)

/-- What a caller is shown of an event.  Which engine was at work is not shown. -/
inductive Shown where
  | step (reply : Except Fault Reply) (notes : List Note)
  | derived (made : Option (Except Phrase.Fault Phrase))

def Outcome.shown (outcome : Outcome) : Shown := .step outcome.reply outcome.notes

def perform [Locale.Catalog] (s : Session) : Event → Shown × Session
  | .step step =>
    let (outcome, s) := s.run step
    (outcome.shown, s)
  | .derive index d =>
    let (made, s) := s.derive index d
    (.derived made, s)

/-- What is shown of events in turn, and the session after them. -/
def performAll [Locale.Catalog] (s : Session) : List Event → List Shown × Session
  | [] => ([], s)
  | event :: events =>
    let (shown, s) := s.perform event
    let (others, s) := s.performAll events
    (shown :: others, s)

/-- A session without memories: of every engine only the terms are left. -/
structure Outline where
  own : Terms
  current : Terms
  templates : List Template
  phrases : List (Phrase × Terms)

namespace Shown

def reply (r : Reply) : Shown := .step (.ok r) []

def fault (f : Fault) : Shown := .step (.error f) []

def answer (a : Answer) : Shown := (ofAnswer a 0).shown

end Shown

namespace Outline

def withTemplate (o : Outline) (source : Text) (keep : Template → Reply × Outline) :
    Shown × Outline :=
  match Template.parse source with
  | .ok t => (.reply (keep t).1, (keep t).2)
  | .error e => (.fault (.substitution (.malformed e)), o)

def keepPhrase (o : Outline) (phrase : Phrase) (terms : Terms) : Outline :=
  { o with phrases := o.phrases ++ [(phrase, terms)] }

def phrase (o : Outline) (base : Text) (locale : Option Text) (terms : Terms) : Shown × Outline :=
  let phrase := terms.fresh.phrase base locale
  (.reply (.locale phrase.locale), o.keepPhrase phrase terms)

/-- A step where every text is parsed anew, by an engine that is made for the call. -/
def run (o : Outline) : Step → Shown × Outline
  | .template source => o.withTemplate source fun t => (.template t, o)
  | .hold source =>
    o.withTemplate source fun t =>
      (.index o.templates.length, { o with templates := o.templates ++ [t] })
  | .format source argument locale => (.answer (o.own.fresh.format source argument locale).1, o)
  | .formatHeld index argument locale =>
    match o.templates[index]? with
    | none => (.fault (.nothingKept index), o)
    | some t => (.answer (o.own.fresh.formatTemplate t argument locale).1, o)
  | .phrase base locale onCurrent => o.phrase base locale (if onCurrent then o.current else o.own)
  | .formatPhrase index argument =>
    match o.phrases[index]? with
    | none => (.fault (.nothingKept index), o)
    | some (phrase, terms) =>
      (.answer (terms.fresh.format phrase.base argument (some phrase.locale)).1, o)
  | .configure fields classifier =>
    match Settings.ofFields fields with
    | .error fault => (.fault (.settings fault), o)
    | .ok settings => (.reply (.installed settings), { o with current := ⟨settings, classifier⟩ })
  | .current => (.reply (.current o.current.settings), o)
  | .formatCurrent source argument locale =>
    (.answer (o.current.fresh.format source argument locale).1, o)

def derive (o : Outline) (index : Nat) (d : Phrase.Derivation) :
    Option (Except Phrase.Fault Phrase) × Outline :=
  match o.phrases[index]? with
  | none => (none, o)
  | some (phrase, terms) =>
    match phrase.derived d with
    | .error fault => (some (.error fault), o)
    | .ok made => (some (.ok made), o.keepPhrase made terms)

def perform (o : Outline) : Event → Shown × Outline
  | .step step => o.run step
  | .derive index d => ((.derived (o.derive index d).1), (o.derive index d).2)

/-- What is shown of events in turn where nothing is remembered. -/
def performAll (o : Outline) : List Event → List Shown
  | [] => []
  | event :: events => (o.perform event).1 :: (o.perform event).2.performAll events

end Outline

/-- The terms of the engine that is used where none is named. -/
def currentTerms [Locale.Catalog] (s : Session) : Terms :=
  match s.current with
  | some place => (s.engine place).terms
  | none => Engine.usual.terms

def outline [Locale.Catalog] (s : Session) : Outline :=
  ⟨s.own.terms, s.currentTerms, s.templates,
    s.phrases.map fun p => (p.phrase, (s.engine p.engine).terms)⟩

/-! ### What events leave of a session -/

/-- `after` is sound, and what was there is still there: the engines on their terms, and the phrases
with their engines at their places. -/
structure Follows (s after : Session) : Prop where
  sound : Sound after
  places : s.others.length ≤ after.others.length
  terms : ∀ k ≤ s.others.length, (after.engine k).terms = (s.engine k).terms
  bindings : s.phrases.map BoundPhrase.binding <+: after.phrases.map BoundPhrase.binding

variable {s after last ready : Session} {place : Nat} {requests : List Request}

namespace Follows

theorem refl (hs : Sound s) : Follows s s :=
  ⟨hs, Nat.le_refl _, fun _ _ => rfl, List.prefix_refl _⟩

theorem trans (h : Follows s after) (h' : Follows after last) : Follows s last := by
  refine ⟨h'.sound, Nat.le_trans h.places h'.places, fun k hk => ?_,
    h.bindings.trans h'.bindings⟩
  have hk' := Nat.le_trans hk h.places
  exact (h'.terms k hk').trans (h.terms k hk)

theorem of_frame (h : Frame place requests s after) (hsound : Sound after) : Follows s after := by
  refine ⟨hsound, Nat.le_of_eq h.places.symm, fun _ hk => h.terms hk, [], ?_⟩
  rw [List.append_nil, h.bindings]

/-- An engine that is added takes no other's place. -/
theorem install (hs : Sound s) {e : Engine} (he : e.cache.Faithful) :
    Follows s (s.install e) := by
  have hlength := length_install s e
  refine ⟨⟨fun k hk => ?_, fun k hk => ?_, fun p hp => ?_⟩, by omega,
    fun k hk => by rw [engine_install hk], List.prefix_refl _⟩
  · rcases Nat.lt_or_eq_of_le (hlength ▸ hk) with hlt | rfl
    · rw [engine_install (Nat.lt_succ_iff.mp hlt)]
      exact hs.caches k (Nat.lt_succ_iff.mp hlt)
    · rw [engine_install_self]
      exact he
  · obtain rfl := Option.some.inj hk
    omega
  · have hkeeps := hs.phrases p hp
    exact hkeeps.mono (by omega) (by rw [engine_install hkeeps.engine])

theorem keepTemplate (hs : Sound s) (t : Template) :
    Follows s { s with templates := s.templates ++ [t] } := by
  refine ⟨⟨hs.caches, hs.current, fun p hp => ?_⟩, Nat.le_refl _, fun _ _ => rfl,
    List.prefix_refl _⟩
  exact (hs.phrases p hp).mono (Nat.le_refl _) rfl

theorem keep (hs : Sound s) {p : BoundPhrase} (hp : Keeps s p) :
    Follows s { s with phrases := s.phrases ++ [p] } := by
  refine ⟨⟨hs.caches, hs.current, fun q hq => ?_⟩, Nat.le_refl _, fun _ _ => rfl, ?_⟩
  · rcases List.mem_append.mp hq with hold | hnew
    · exact (hs.phrases q hold).mono (Nat.le_refl _) rfl
    · obtain rfl := List.mem_singleton.mp hnew
      exact hp.mono (Nat.le_refl _) rfl
  · show _ <+: (s.phrases ++ [p]).map BoundPhrase.binding
    rw [List.map_append]
    exact List.prefix_append _ _

end Follows

/-- What is derived from a kept phrase is kept with the engine of that one. -/
theorem derive_eq (hs : Sound s) {index : Nat} {p : BoundPhrase} {made : Phrase}
    {d : Phrase.Derivation} (hp : s.phrases[index]? = some p) (hmade : p.phrase.derived d = .ok made) :
    s.derive index d =
      (some (.ok made), { s with phrases := s.phrases ++ [⟨made, p.engine, none⟩] }) := by
  have hkeeps := hs.phrases p (List.mem_of_getElem? hp)
  have hphrase : (s.engine p.engine).phrase made.base (some p.phrase.locale) = made := by
    show Phrase.mk made.base (Engine.effectiveLocale (s.engine p.engine).settings _) = made
    rw [hkeeps.locale, ← Phrase.locale_of_derived hmade]
  simp only [derive, hp, hmade, hphrase]

variable [Locale.Catalog]

/-- The engine that is used where none is named exists. -/
theorem currentEngine_follows (hs : Sound s) :
    s.currentEngine.1 ≤ s.currentEngine.2.others.length ∧ Follows s s.currentEngine.2 := by
  unfold currentEngine
  cases hcurrent : s.current with
  | some place => exact ⟨hs.current place hcurrent, .refl hs⟩
  | none =>
    have hlength := length_install s .usual
    exact ⟨Nat.le_of_eq hlength.symm, .install hs Cache.faithful_empty⟩

/-- The engine that a new phrase is made on, and the session where it exists. -/
def phraseEngine (s : Session) (onCurrent : Bool) : Nat × Session :=
  if onCurrent then s.currentEngine else (0, s)

theorem phraseEngine_follows (hs : Sound s) (onCurrent : Bool) :
    (s.phraseEngine onCurrent).1 ≤ (s.phraseEngine onCurrent).2.others.length ∧
      Follows s (s.phraseEngine onCurrent).2 := by
  cases onCurrent with
  | true => exact currentEngine_follows hs
  | false => exact ⟨Nat.zero_le _, .refl hs⟩

/-! ### The outline behind each step -/

/-- Engines on the same terms at the places of the phrases give the phrases the same outline. -/
theorem phrases_outline_congr (hs : Sound s)
    (hbindings : after.phrases.map BoundPhrase.binding = s.phrases.map BoundPhrase.binding)
    (hterms : ∀ k ≤ s.others.length, (after.engine k).terms = (s.engine k).terms) :
    after.outline.phrases = s.outline.phrases := by
  have hmap (s : Session) : s.outline.phrases =
      (s.phrases.map BoundPhrase.binding).map fun b => (b.1, (s.engine b.2).terms) := by
    rw [List.map_map]
    rfl
  rw [hmap, hmap, hbindings]
  refine List.map_congr_left fun b hb => ?_
  obtain ⟨p, hp, rfl⟩ := List.mem_map.mp hb
  exact congrArg _ (hterms p.engine (hs.phrases p hp).engine)

theorem getElem?_phrases_outline (s : Session) (index : Nat) : s.outline.phrases[index]? =
    s.phrases[index]?.map fun p => (p.phrase, (s.engine p.engine).terms) := List.getElem?_map ..

theorem Frame.outline_eq (h : Frame place requests s after) (hs : Sound s) :
    after.outline = s.outline := by
  have hown : after.own.terms = s.own.terms := h.terms (Nat.zero_le _)
  have hcurrent : after.currentTerms = s.currentTerms := by
    unfold currentTerms
    rw [h.current]
    cases hcurrent : s.current with
    | some place => exact h.terms (hs.current place hcurrent)
    | none => rfl
  have hphrases := phrases_outline_congr hs h.bindings fun _ hk => h.terms hk
  unfold outline at hphrases ⊢
  rw [hown, hcurrent, h.templates]
  exact congrArg (Outline.mk _ _ _) hphrases

theorem outline_install (hs : Sound s) (e : Engine) :
    (s.install e).outline = { s.outline with current := e.terms } := by
  have hcurrent : (s.install e).currentTerms = e.terms :=
    congrArg Engine.terms (engine_install_self s e)
  have hphrases : (s.install e).outline.phrases = s.outline.phrases :=
    phrases_outline_congr hs rfl fun k hk => by rw [engine_install hk]
  unfold outline at hphrases ⊢
  rw [hcurrent]
  exact congrArg (Outline.mk _ _ _) hphrases

theorem outline_currentEngine (hs : Sound s) :
    s.currentEngine.2.outline = s.outline ∧
      (s.currentEngine.2.engine s.currentEngine.1).terms = s.outline.current := by
  unfold currentEngine
  cases hcurrent : s.current with
  | some place =>
    have hterms : s.currentTerms = (s.engine place).terms := by
      unfold currentTerms
      rw [hcurrent]
    exact ⟨rfl, hterms.symm⟩
  | none =>
    have hterms : s.currentTerms = Engine.usual.terms := by
      unfold currentTerms
      rw [hcurrent]
    refine ⟨?_, ?_⟩
    · show (s.install .usual).outline = s.outline
      rw [outline_install hs, ← hterms]
      rfl
    · show ((s.install .usual).engine (s.others.length + 1)).terms = s.currentTerms
      rw [engine_install_self, hterms]

theorem outline_phraseEngine (hs : Sound s) (onCurrent : Bool) :
    (s.phraseEngine onCurrent).2.outline = s.outline ∧
      ((s.phraseEngine onCurrent).2.engine (s.phraseEngine onCurrent).1).terms =
        if onCurrent then s.outline.current else s.outline.own := by
  cases onCurrent with
  | true => exact outline_currentEngine hs
  | false => exact ⟨rfl, rfl⟩

theorem outline_keep (s : Session) (p : BoundPhrase) :
    { s with phrases := s.phrases ++ [p] }.outline =
      s.outline.keepPhrase p.phrase (s.engine p.engine).terms := by
  show Outline.mk _ _ _ ((s.phrases ++ [p]).map _) = _
  rw [List.map_append]
  rfl

/-! ### What events do -/

/-- What is shown and what is left of a session, next to what the outline has for both. -/
structure Mirrors (s : Session) (expected : Shown × Outline) (shown : Shown)
    (after : Session) : Prop where
  follows : Follows s after
  shown : shown = expected.1
  outline : after.outline = expected.2

theorem Mirrors.of_ready {expected : Shown × Outline} {shown : Shown}
    (hready : Follows s ready) (h : Mirrors ready expected shown after) :
    Mirrors s expected shown after :=
  ⟨hready.trans h.follows, h.shown, h.outline⟩

/-- A session that stays as it is. -/
theorem Mirrors.refl (hs : Sound s) (shown : Shown) : Mirrors s (shown, s.outline) shown s :=
  ⟨.refl hs, rfl, rfl⟩

theorem Serves.mirrors {answer : Answer} {result : Outcome × Session} (hs : Sound s)
    (h : Serves place requests s answer result) :
    Mirrors s (.answer answer, s.outline) result.1.shown result.2 := by
  refine ⟨.of_frame h.frame h.sound, ?_, h.frame.outline_eq hs⟩
  rw [h.outcome]
  rfl

theorem mirrors_install (hs : Sound s) (e : Engine) (he : e.cache.Faithful) (shown : Shown) :
    Mirrors s (shown, { s.outline with current := e.terms }) shown (s.install e) :=
  ⟨.install hs he, rfl, outline_install hs e⟩

theorem mirrors_keep (hs : Sound s) {p : BoundPhrase} (hp : Keeps s p) (shown : Shown) :
    Mirrors s (shown, s.outline.keepPhrase p.phrase (s.engine p.engine).terms) shown
      { s with phrases := s.phrases ++ [p] } :=
  ⟨.keep hs hp, rfl, outline_keep s p⟩

theorem mirrors_phrase (hs : Sound s) (hplace : place ≤ s.others.length) (base : Text)
    (locale : Option Text) :
    let phrase := (s.engine place).phrase base locale
    Mirrors s (s.outline.phrase base locale (s.engine place).terms) (.reply (.locale phrase.locale))
      { s with phrases := s.phrases ++ [⟨phrase, place, none⟩] } :=
  mirrors_keep hs (keeps_phrase hplace base locale) _

/-- A template that is asked for, if the session and its outline do the same with it. -/
theorem withTemplate_mirrors (hs : Sound s) (source : Text)
    (keep : Session → Template → Reply × Session) (keep' : Outline → Template → Reply × Outline)
    (h : ∀ found t, Sound found → Mirrors found (.reply (keep' found.outline t).1,
      (keep' found.outline t).2) (.reply (keep found t).1) (keep found t).2) :
    Mirrors s (s.outline.withTemplate source (keep' s.outline))
      (s.withTemplate source keep).1.shown (s.withTemplate source keep).2 := by
  obtain ⟨hframe, hfound⟩ := hs.template source
  rw [withTemplate_eq_parse (hs.caches 0 (Nat.zero_le _)), Outline.withTemplate]
  cases Template.parse source with
  | error fault => exact .refl hs _
  | ok t =>
    rw [← hframe.outline_eq hs]
    exact .of_ready (.of_frame hframe hfound) (h _ t hfound)

theorem run_mirrors (hs : Sound s) (step : Step) :
    Mirrors s (s.outline.run step) (s.run step).1.shown (s.run step).2 := by
  cases step with
  | template source =>
    exact withTemplate_mirrors hs source _ (fun o t => (.template t, o)) fun found t hfound =>
      .refl hfound _
  | hold source =>
    exact withTemplate_mirrors hs source _ (fun o t =>
      (.index o.templates.length, { o with templates := o.templates ++ [t] }))
      fun found t hfound => ⟨.keepTemplate hfound t, rfl, rfl⟩
  | format source argument locale =>
    exact (hs.formatOn (Nat.zero_le _) source argument locale).mirrors hs
  | formatHeld index argument locale =>
    have htemplates : s.outline.templates = s.templates := rfl
    simp only [run, Outline.run, htemplates]
    cases s.templates[index]? with
    | none => exact .refl hs _
    | some t => exact (hs.formatTemplateOn (Nat.zero_le _) t argument locale).mirrors hs
  | phrase base locale onCurrent =>
    obtain ⟨hplace, hready⟩ := phraseEngine_follows hs onCurrent
    obtain ⟨houtline, hterms⟩ := outline_phraseEngine hs onCurrent
    have hmirrors := mirrors_phrase hready.sound hplace base locale
    rw [houtline, hterms] at hmirrors
    exact .of_ready hready hmirrors
  | formatPhrase index argument =>
    have hphrases := getElem?_phrases_outline s index
    cases hp : s.phrases[index]? with
    | none =>
      rw [hp] at hphrases
      simp only [run, formatPhrase, hp, Outline.run, hphrases, Option.map_none]
      exact .refl hs _
    | some p =>
      rw [hp] at hphrases
      simp only [Outline.run, hphrases, Option.map_some]
      exact (hs.formatPhrase hp argument).mirrors hs
  | configure fields classifier =>
    simp only [run, Outline.run]
    cases Settings.ofFields fields with
    | error fault => exact .refl hs _
    | ok settings => exact mirrors_install hs (.create settings classifier) Cache.faithful_empty _
  | current =>
    obtain ⟨-, hready⟩ := currentEngine_follows hs
    obtain ⟨houtline, hterms⟩ := outline_currentEngine hs
    refine ⟨hready, ?_, houtline⟩
    show Shown.reply (.current (s.currentEngine.2.engine s.currentEngine.1).terms.settings) = _
    rw [hterms]
    rfl
  | formatCurrent source argument locale =>
    obtain ⟨hplace, hready⟩ := currentEngine_follows hs
    obtain ⟨houtline, hterms⟩ := outline_currentEngine hs
    have hserves := hready.sound.formatOn hplace source argument locale
    have hmirrors := hserves.mirrors hready.sound
    rw [houtline, hterms] at hmirrors
    exact .of_ready hready hmirrors

theorem derive_mirrors (hs : Sound s) (index : Nat) (d : Phrase.Derivation) :
    Mirrors s (s.outline.perform (.derive index d)) (.derived (s.derive index d).1)
      (s.derive index d).2 := by
  have hphrases := getElem?_phrases_outline s index
  cases hp : s.phrases[index]? with
  | none =>
    rw [hp] at hphrases
    simp only [derive, hp, Outline.perform, Outline.derive, hphrases, Option.map_none]
    exact .refl hs _
  | some p =>
    rw [hp] at hphrases
    cases hmade : p.phrase.derived d with
    | error fault =>
      simp only [derive, hp, hmade, Outline.perform, Outline.derive, hphrases, Option.map_some]
      exact .refl hs _
    | ok made =>
      have hkeeps := hs.phrases p (List.mem_of_getElem? hp)
      have hmadeKeeps : Keeps s ⟨made, p.engine, none⟩ := by
        refine ⟨hkeeps.engine, ?_, fun _ h => nomatch h⟩
        rw [Phrase.locale_of_derived hmade]
        exact hkeeps.locale
      rw [derive_eq hs hp hmade]
      simp only [Outline.perform, Outline.derive, hphrases, Option.map_some, hmade]
      exact mirrors_keep hs hmadeKeeps _

theorem perform_mirrors (hs : Sound s) (event : Event) :
    Mirrors s (s.outline.perform event) (s.perform event).1 (s.perform event).2 := by
  cases event with
  | step step => exact run_mirrors hs step
  | derive index d => exact derive_mirrors hs index d

/-- Events show what they show where nothing is remembered. -/
theorem performAll_outline (hs : Sound s) (events : List Event) :
    (s.performAll events).1 = s.outline.performAll events ∧ Follows s (s.performAll events).2 := by
  induction events generalizing s with
  | nil => exact ⟨rfl, .refl hs⟩
  | cons event events ih =>
    have hfirst := perform_mirrors hs event
    obtain ⟨hothers, hlast⟩ := ih hfirst.follows.sound
    refine ⟨?_, hfirst.follows.trans hlast⟩
    show (s.perform event).1 :: ((s.perform event).2.performAll events).1 = _
    rw [hothers, Outline.performAll, hfirst.shown, hfirst.outline]

end Session

end Phrasebook
