import Phrasebook.Locale.Known
import Phrasebook.Proofs.Engine.Outline

/-! Phrases stay bound.  Whatever happens in a session, a phrase that is kept has its base, its
locale and its engine for good, and it is filled as a new engine on the same terms fills its base. -/

namespace Phrasebook.Session

variable {s after : Session}

/-- The session keeps a phrase for the engine at `place`, which has these terms, and fills it as a
new engine on the terms fills its base. -/
structure Binds [Locale.Catalog] (s : Session) (index : Nat) (phrase : Phrase) (place : Nat)
    (terms : Terms) : Prop where
  kept : s.phrases[index]?.map BoundPhrase.binding = some (phrase, place)
  engine : (s.engine place).terms = terms
  answers : ∀ argument, (s.run (.formatPhrase index argument)).1 =
    ofAnswer (terms.fresh.format phrase.base argument (some phrase.locale)).1 place

theorem Follows.binds [Locale.Catalog] (h : Follows s after) (hs : Sound s) {index : Nat}
    {p : BoundPhrase} (hp : s.phrases[index]? = some p) :
    Binds after index p.phrase p.engine (s.engine p.engine).terms := by
  have hkept : after.phrases[index]?.map BoundPhrase.binding = some p.binding := by
    obtain ⟨rest, hrest⟩ := h.bindings
    have hindex : (s.phrases.map BoundPhrase.binding)[index]? = some p.binding := by
      rw [List.getElem?_map, hp]
      rfl
    obtain ⟨hlt, -⟩ := List.getElem?_eq_some_iff.mp hindex
    rw [← List.getElem?_map, ← hrest, List.getElem?_append_left hlt]
    exact hindex
  have hterms := h.terms p.engine (hs.phrases p (List.mem_of_getElem? hp)).engine
  refine ⟨hkept, hterms, fun argument => ?_⟩
  obtain ⟨q, hq, hbinding⟩ := Option.map_eq_some_iff.mp hkept
  obtain ⟨hphrase, hengine⟩ := Prod.mk.inj hbinding
  have houtcome := (h.sound.formatPhrase hq argument).outcome
  rw [hphrase, hengine, hterms] at houtcome
  exact houtcome

theorem phrases_phraseEngine [Locale.Catalog] (s : Session) (onCurrent : Bool) :
    (s.phraseEngine onCurrent).2.phrases = s.phrases := by
  cases onCurrent with
  | true =>
    show s.currentEngine.2.phrases = s.phrases
    unfold currentEngine
    cases s.current <;> rfl
  | false => rfl

/-- A phrase that is made on an engine, or derived from one that was, keeps its locale and its engine
whatever happens later, and is filled as a new engine on the same terms fills its base. -/
theorem phrase_stays_bound [Locale.Catalog] (terms : Terms) (before later : List Event) :
    let s := ((start terms.fresh).performAll before).2
    (∀ base locale onCurrent,
      let used := s.phraseEngine onCurrent
      let engine := used.2.engine used.1
      let made := s.run (.phrase base locale onCurrent)
      let given := locale.getD []
      let phrase : Phrase := ⟨base, if given = [] then engine.settings.locale else given⟩
      made.1.reply = .ok (.locale phrase.locale) ∧
        Binds (made.2.performAll later).2 s.phrases.length phrase used.1 engine.terms) ∧
    ∀ index p d made, s.phrases[index]? = some p → p.phrase.derived d = .ok made →
      let derived := s.derive index d
      derived.1 = some (.ok made) ∧ made.locale = p.phrase.locale ∧
        Binds (derived.2.performAll later).2 s.phrases.length made p.engine
          (s.engine p.engine).terms := by
  intro s
  have hs : Sound s := (performAll_outline (sound_start terms) before).2.sound
  refine ⟨fun base locale onCurrent => ?_, fun index p d made hp hmade => ?_⟩
  · intro used engine made given phrase
    have hphrase : engine.phrase base locale = phrase :=
      congrArg (Phrase.mk base) (Engine.effectiveLocale_eq_ite engine.settings locale)
    have hsound : Sound made.2 := (run_mirrors hs (.phrase base locale onCurrent)).follows.sound
    have hkept : made.2.phrases[s.phrases.length]? = some ⟨phrase, used.1, none⟩ := by
      show (used.2.phrases ++ [⟨engine.phrase base locale, used.1, none⟩])[s.phrases.length]? = _
      rw [phrases_phraseEngine, hphrase]
      exact List.getElem?_concat_length
    refine ⟨?_, (performAll_outline hsound later).2.binds hsound hkept⟩
    show Except.ok (Reply.locale (engine.phrase base locale).locale) = _
    rw [hphrase]
  · intro derived
    have hderived := derive_eq hs hp hmade
    have hsound : Sound derived.2 := (derive_mirrors hs index d).follows.sound
    have hkept : derived.2.phrases[s.phrases.length]? = some ⟨made, p.engine, none⟩ := by
      show (s.derive index d).2.phrases[s.phrases.length]? = _
      rw [hderived]
      exact List.getElem?_concat_length
    have hengine : derived.2.engine p.engine = s.engine p.engine := by
      show (s.derive index d).2.engine p.engine = _
      rw [hderived]
      rfl
    have hbinds := (performAll_outline hsound later).2.binds hsound hkept
    rw [hengine] at hbinds
    exact ⟨congrArg Prod.fst hderived, Phrase.locale_of_derived hmade, hbinds⟩

open Text (lit)

/-- A phrase on a Turkish engine stays Turkish when its case is folded, and when the engine that is
used where none is named is another one. -/
theorem phrase_stays_bound_turkish :
    let turkish := [(lit "default_locale", Value.text (lit "tr"))]
    let classifier := Plural.Classifier.byRules
    let made : List Event :=
      [.step (.configure turkish classifier), .step (.phrase (lit "I%s") none true)]
    let s := ((start Engine.usual.terms.fresh).performAll made).2
    let folded : Phrase := ⟨'ı'.toNat :: lit "%s", lit "tr"⟩
    s.phrases[0]? = some ⟨⟨lit "I%s", lit "tr"⟩, 1, none⟩ ∧
      Phrase.derived ⟨lit "I%s", lit "tr"⟩ (.caseFold none) = .ok folded ∧
      Binds ((s.derive 0 (.caseFold none)).2.performAll [.step (.configure [] classifier)]).2 1
        folded 1 (s.engine 1).terms := by
  intro turkish classifier made s folded
  have hkept : s.phrases[0]? = some ⟨⟨lit "I%s", lit "tr"⟩, 1, none⟩ := by
    rfl
  have hfolded : Phrase.derived ⟨lit "I%s", lit "tr"⟩ (.caseFold none) = .ok folded := by
    rfl
  refine ⟨hkept, hfolded, ?_⟩
  have hbound := phrase_stays_bound Engine.usual.terms made [.step (.configure [] classifier)]
  exact (hbound.2 0 _ _ folded hkept hfolded).2.2

end Phrasebook.Session
