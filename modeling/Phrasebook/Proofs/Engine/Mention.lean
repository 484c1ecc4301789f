import Mathlib
import Phrasebook.Proofs.Engine.Verbatim

/-! The keys that a template text may come to name: its own, and those of the template texts that
are held for its plural placeholders.  Mappings that bind these keys alike fill it alike. -/

namespace Phrasebook

/-! ### Mappings that bind keys alike -/

namespace Value

variable {key : Text} {v : Value} {entries entries' : List (Value × Value)}

theorem lookup_eq_none_of_not_mem (h : .text key ∉ entries.map Prod.fst) :
    lookup key entries = Option.none := by
  cases hlookup : lookup key entries with
  | none => rfl
  | some v => exact absurd (List.mem_map_of_mem (mem_of_lookup hlookup)) h

/-- Where no key is bound twice, it does not matter in which order the keys are bound. -/
theorem lookup_eq_some_iff_mem (hnodup : (entries.map Prod.fst).Nodup) :
    lookup key entries = some v ↔ (.text key, v) ∈ entries := by
  refine ⟨mem_of_lookup, fun hmem => ?_⟩
  induction entries with
  | nil => cases hmem
  | cons entry entries ih =>
    obtain ⟨hfirst, hnodup⟩ := List.nodup_cons.mp hnodup
    rcases List.mem_cons.mp hmem with rfl | hmem
    · exact lookup_cons_self key v entries
    · have hother : entry.1 ≠ .text key := by
        intro hkey
        exact hfirst (hkey ▸ List.mem_map_of_mem hmem)
      rw [lookup_cons_of_ne hother]
      exact ih hnodup hmem

theorem lookup_of_perm (h : entries'.Perm entries) (hnodup : (entries.map Prod.fst).Nodup)
    (key : Text) : lookup key entries' = lookup key entries := by
  have hnodup' : (entries'.map Prod.fst).Nodup := (h.map Prod.fst).nodup_iff.mpr hnodup
  refine Option.ext fun v => ?_
  rw [lookup_eq_some_iff_mem hnodup', lookup_eq_some_iff_mem hnodup, h.mem_iff]

theorem lookup_append_of_not_mem {extra : List (Value × Value)}
    (h : .text key ∉ extra.map Prod.fst) (entries : List (Value × Value)) :
    lookup key (entries ++ extra) = lookup key entries := by
  induction entries with
  | nil => exact lookup_eq_none_of_not_mem h
  | cons entry entries ih =>
    by_cases hkey : entry.1 = .text key
    · obtain ⟨k, v⟩ := entry
      obtain rfl : k = .text key := hkey
      rw [List.cons_append, lookup_cons_self, lookup_cons_self]
    · rw [List.cons_append, lookup_cons_of_ne hkey, lookup_cons_of_ne hkey, ih]

end Value

/-! ### Keys that are mentioned -/

/-- The keys that a segment names. -/
def Segment.keys : Segment → List Text
  | .literal _ => []
  | .positional _ => []
  | .named key _ => [key]
  | .value key => [key]
  | .reference count rules => [count, rules]
  | .inline _ plural => [plural.countKey]

/-- The template texts that are held for a plural placeholder: in its category map, or in the
mapping that its rules key is bound to, where each value is a template text as it is shown. -/
inductive Segment.Holds (entries : List (Value × Value)) : Segment → Text → Prop
  | inline {body : Text} {plural : InlinePlural} {tag chosen : Text} :
      (tag, chosen) ∈ plural.categories → Holds entries (.inline body plural) chosen
  | reference {count rules chosen : Text} {categories : List (Value × Value)} {tag v : Value} :
      Value.lookup rules entries = some (.map categories) → (tag, v) ∈ categories →
      v.shown? = some chosen → Holds entries (.reference count rules) chosen

/-- The keys that a template text names, and those that are mentioned by the template texts held for
its placeholders. -/
inductive Template.Mentions (entries : List (Value × Value)) : Text → Text → Prop
  | own {source key : Text} {t : Template} {s : Segment} : parse source = .ok t →
      s ∈ t.segments → key ∈ s.keys → Mentions entries source key
  | held {source chosen key : Text} {t : Template} {s : Segment} : parse source = .ok t →
      s ∈ t.segments → s.Holds entries chosen → Mentions entries chosen key →
      Mentions entries source key

/-- It is enough to look at template texts that hold no others. -/
theorem Template.Mentions.mem_of_closed {entries : List (Value × Value)} {source key : Text}
    (h : Mentions entries source key) (texts : List Text) {keys : Set Text}
    (hsource : source ∈ texts)
    (hclosed : ∀ text ∈ texts, ∀ t, parse text = .ok t → ∀ s ∈ t.segments,
      (∀ key ∈ s.keys, key ∈ keys) ∧ ∀ chosen, s.Holds entries chosen → chosen ∈ texts) :
    key ∈ keys := by
  induction h with
  | own hparse hs hkey => exact (hclosed _ hsource _ hparse _ hs).1 _ hkey
  | held hparse hs hholds _ ih => exact ih ((hclosed _ hsource _ hparse _ hs).2 _ hholds)

theorem Plural.exists_mem_of_templateFor {entries : List (Value × Value)} {tag chosen : Text}
    (h : templateFor entries tag = .ok (some chosen)) :
    ∃ v, (.text tag, v) ∈ entries ∧ v.shown? = some chosen := by
  obtain ⟨v, hlookup, -, hshown⟩ := templateFor_eq_some_iff.mp h
  exact ⟨v, Value.mem_of_lookup hlookup, hshown⟩

section

variable {setting : Setting} {entries entries' : List (Value × Value)}

namespace Setting

theorem choice?_of_keys {s : Segment}
    (h : ∀ key ∈ s.keys, Value.lookup key entries' = Value.lookup key entries) :
    (setting.keyed entries').choice? s = (setting.keyed entries).choice? s := by
  cases s with
  | literal text => rfl
  | positional spec => rfl
  | named key spec => rfl
  | value key => rfl
  | reference count rules =>
    have hcount := h count (by simp [Segment.keys])
    have hrules := h rules (by simp [Segment.keys])
    exact congrArg some (choice_congr hcount hrules)
  | inline body plural =>
    have hcount := h plural.countKey (by simp [Segment.keys])
    exact congrArg some (choice_congr hcount rfl)

theorem holds_of_chosen? {s : Segment} {chosen : Text}
    (h : (setting.keyed entries).chosen? s = some chosen) : s.Holds entries chosen := by
  obtain ⟨notes, hchoice⟩ := chosen?_eq_some_iff.mp h
  cases s with
  | literal text => cases hchoice
  | positional spec => cases hchoice
  | named key spec => cases hchoice
  | value key => cases hchoice
  | reference count rules =>
    obtain ⟨categories, tag, hcategories, htemplate⟩ :=
      templateFor_of_choice (congrArg Prod.fst (Option.some.inj hchoice))
    obtain ⟨v, hmem, hshown⟩ := Plural.exists_mem_of_templateFor htemplate
    exact .reference hcategories hmem hshown
  | inline body plural =>
    obtain ⟨categories, tag, hcategories, htemplate⟩ :=
      templateFor_of_choice (congrArg Prod.fst (Option.some.inj hchoice))
    cases hcategories
    obtain ⟨v, hmem, hshown⟩ := Plural.exists_mem_of_templateFor htemplate
    obtain ⟨category, hcategory, heq⟩ := List.mem_map.mp hmem
    cases heq
    cases hshown
    exact .inline hcategory

end Setting

namespace Rendering

variable {nested nested' : Text → Text → Rendering Unit Text}

/-- A segment looks at the keys that it names, and renders only template texts held for it. -/
theorem renderSegment_of_keys {s : Segment}
    (hkeys : ∀ key ∈ s.keys, Value.lookup key entries' = Value.lookup key entries)
    (hnested : ∀ source chosen, s.Holds entries chosen →
      nested' source chosen = nested source chosen) :
    renderSegment (setting.keyed entries') nested' s =
      renderSegment (setting.keyed entries) nested s := by
  cases hchoice : (setting.keyed entries).choice? s with
  | some choice =>
    obtain ⟨choice, notes⟩ := choice
    rw [renderSegment_of_choice? _ _ hchoice,
      renderSegment_of_choice? _ _ ((Setting.choice?_of_keys hkeys).trans hchoice)]
    cases choice with
    | unchanged reason => rfl
    | fault fault => rfl
    | template chosen =>
      have hchosen : (setting.keyed entries).chosen? s = some chosen :=
        Setting.chosen?_eq_some_iff.mpr ⟨notes, hchoice⟩
      simp only [follow, hnested s.source chosen (Setting.holds_of_chosen? hchosen)]
  | none =>
    cases s with
    | literal text => rfl
    | positional spec => rfl
    | named key spec =>
      simp only [renderSegment, Setting.keyed, require, hkeys key (by simp [Segment.keys])]
    | value key =>
      simp only [renderSegment, Setting.keyed, require, hkeys key (by simp [Segment.keys])]
    | reference count rules => cases hchoice
    | inline body plural => cases hchoice

theorem renderSegments_of_keys {segments : List Segment}
    (hkeys : ∀ s ∈ segments, ∀ key ∈ s.keys,
      Value.lookup key entries' = Value.lookup key entries)
    (hnested : ∀ s ∈ segments, ∀ source chosen, s.Holds entries chosen →
      nested' source chosen = nested source chosen) :
    renderSegments (setting.keyed entries') nested' segments =
      renderSegments (setting.keyed entries) nested segments := by
  induction segments with
  | nil => rfl
  | cons s segments ih =>
    obtain ⟨hkey, hkeys⟩ := List.forall_mem_cons.mp hkeys
    obtain ⟨hfirst, hnested⟩ := List.forall_mem_cons.mp hnested
    rw [renderSegments, renderSegments, renderSegment_of_keys hkey hfirst, ih hkeys hnested]

/-- What takes the place of a placeholder depends on the keys that its template text mentions. -/
theorem below_of_mentions (levels : Nat) {chosen : Text}
    (h : ∀ key, Template.Mentions entries chosen key →
      Value.lookup key entries' = Value.lookup key entries) (source : Text) :
    below Shelf.bare (setting.keyed entries') levels source chosen =
      below Shelf.bare (setting.keyed entries) levels source chosen := by
  induction levels generalizing source chosen with
  | zero => rfl
  | succ levels ih =>
    rw [below, below, fetch_bare]
    cases hparse : Template.parse chosen with
    | error e => rfl
    | ok t =>
      simp only [pure_bind, render_eq_below]
      refine renderSegments_of_keys (fun s hs key hkey => h key (.own hparse hs hkey)) ?_
      intro s hs source' held hholds
      exact ih (fun key hmentions => h key (.held hparse hs hholds hmentions)) source'

end Rendering

end

namespace Engine

/-- Mappings that bind all mentioned keys alike are the same to a template text. -/
theorem evaluate_of_mentions {source : Text} {entries entries' : List (Value × Value)}
    (h : ∀ key, Template.Mentions entries source key →
      Value.lookup key entries' = Value.lookup key entries)
    (settings : Settings) (classifier : Plural.Classifier) (locale : Option Text) :
    evaluate settings classifier source (.map entries') locale =
      evaluate settings classifier source (.map entries) locale := by
  unfold evaluate
  cases hparse : Template.parse source with
  | error e => rfl
  | ok t =>
    let setting := setting settings classifier (.map entries) locale
    have hrender : Rendering.render Shelf.bare (setting.keyed entries') setting.limit t =
        Rendering.render Shelf.bare (setting.keyed entries) setting.limit t := by
      rw [Rendering.render_eq_below, Rendering.render_eq_below]
      refine Rendering.renderSegments_of_keys (fun s hs key hkey => h key (.own hparse hs hkey)) ?_
      intro s hs source' held hholds
      exact Rendering.below_of_mentions setting.limit
        (fun key hmentions => h key (.held hparse hs hholds hmentions)) source'
    exact congrArg (fun step => (Rendering.answer step ()).1) hrender

/-- A call depends on the keys that its template text may come to name, and on nothing else: from one
engine, before and after other calls, mappings that bind these keys alike have the same answer and
the same notes.  Neither the order of the entries nor entries under other keys matter. -/
theorem format_of_mentions {e later : Engine} (he : e.Reachable) (hlater : e.Continues later)
    {source : Text} {entries : List (Value × Value)} {keys : Set Text}
    (hkeys : ∀ key, Template.Mentions entries source key → key ∈ keys) (locale : Option Text) :
    (∀ entries', (∀ key ∈ keys, Value.lookup key entries' = Value.lookup key entries) →
      (later.format source (.map entries') locale).1 =
        (e.format source (.map entries) locale).1) ∧
    ∀ extra entries', (∀ key ∈ keys, .text key ∉ extra.map Prod.fst) →
      ((entries ++ extra).map Prod.fst).Nodup → entries'.Perm (entries ++ extra) →
      (later.format source (.map entries') locale).1 =
        (e.format source (.map entries) locale).1 := by
  have hagree : ∀ entries', (∀ key ∈ keys, Value.lookup key entries' = Value.lookup key entries) →
      (later.format source (.map entries') locale).1 =
        (e.format source (.map entries) locale).1 := by
    intro entries' hagree
    rw [(format_eq_evaluate hlater.cache source _ locale).1,
      (format_eq_evaluate he.faithful source _ locale).1, hlater.settings, hlater.classifier]
    exact evaluate_of_mentions (fun key hmentions => hagree key (hkeys key hmentions)) _ _ locale
  refine ⟨hagree, fun extra entries' hextra hnodup hperm => hagree entries' fun key hkey => ?_⟩
  calc
    Value.lookup key entries' = Value.lookup key (entries ++ extra) :=
      Value.lookup_of_perm hperm hnodup key
    _ = Value.lookup key entries := Value.lookup_append_of_not_mem (hextra key hkey) entries

open Text (lit)

set_option maxRecDepth 4000 in
/-- The key that only a held template text names is mentioned; a key that is not may be bound to
anything, and anywhere. -/
theorem format_of_mentions_reordered :
    let source := lit "%\x7bn:r\x7d"
    let rules := Value.map [(.text (lit "one"), .text (lit "%\x7bk\x7d!"))]
    let entries : List (Value × Value) :=
      [(.text (lit "n"), .int 1), (.text (lit "r"), rules), (.text (lit "k"), .text (lit "x"))]
    let entries' : List (Value × Value) := [(.text (lit "z"), .int 5),
      (.text (lit "k"), .text (lit "x")), (.text (lit "r"), rules), (.text (lit "n"), .int 1)]
    (∀ key, Template.Mentions entries source key → key ∈ ({lit "n", lit "r", lit "k"} : Set Text)) ∧
      (singular.format source (.map entries) none).1.text = .ok (lit "x!") ∧
      (singular.format source (.map entries') none).1 =
        (singular.format source (.map entries) none).1 := by
  intro source rules entries entries'
  have hsource : Template.parse source = .ok ⟨source, [.reference (lit "n") (lit "r")]⟩ := by
    simp only [source]
    cbv
  have hheld : Template.parse (lit "%\x7bk\x7d!") =
      .ok ⟨lit "%\x7bk\x7d!", [.value (lit "k"), .literal (lit "!")]⟩ := by
    cbv
  have htext : (singular.format source (.map entries) none).1.text = .ok (lit "x!") := by
    simp only [source, entries, rules]
    cbv
  have hkeys : ∀ key, Template.Mentions entries source key →
      key ∈ ({lit "n", lit "r", lit "k"} : Set Text) := by
    intro key hmentions
    refine hmentions.mem_of_closed [source, lit "%\x7bk\x7d!"] List.mem_cons_self ?_
    intro text htext t hparse s hs
    rcases List.mem_pair.mp htext with rfl | rfl
    · cases hsource.symm.trans hparse
      cases List.mem_singleton.mp hs
      refine ⟨by simp [Segment.keys], ?_⟩
      rintro _ (_ | ⟨hrules, hmem, hshown⟩)
      obtain rfl := Value.map.inj (Option.some.inj hrules)
      cases List.mem_singleton.mp hmem
      cases hshown
      exact List.mem_cons_of_mem _ List.mem_cons_self
    · cases hheld.symm.trans hparse
      rcases List.mem_pair.mp hs with rfl | rfl
      · exact ⟨by simp [Segment.keys], by rintro _ ⟨⟩⟩
      · exact ⟨by simp [Segment.keys], by rintro _ ⟨⟩⟩
  have hreachable : singular.Reachable := .create _ _
  refine ⟨hkeys, htext, ?_⟩
  refine (format_of_mentions hreachable ⟨rfl, rfl, hreachable.faithful⟩ hkeys none).2
    [(.text (lit "z"), .int 5)] entries' ?_ ?_ ?_
  · simp [lit]
  · simp [entries, lit]
  · exact (List.reverse_perm (entries ++ [(.text (lit "z"), .int 5)]))

end Engine

end Phrasebook
