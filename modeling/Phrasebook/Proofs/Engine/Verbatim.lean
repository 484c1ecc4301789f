import Phrasebook.Proofs.Engine.InlineRules

/-! Text that stands in a result as it is.  Where no conversion is asked of a key, the text under it
is copied and nothing else is done with it: a template comes to the same parts for every such text,
with the text between them. -/

namespace Phrasebook

/-- `entries'` binds `key` to `v`, and every other key as `entries` does. -/
structure Value.Binds (key : Text) (v : Value) (entries entries' : List (Value × Value)) :
    Prop where
  bound : lookup key entries' = some v
  others : ∀ other, other ≠ key → lookup other entries' = lookup other entries

/-- A mapping from texts binds a key anew. -/
theorem Value.binds_put (key : Text) (v : Value) {entries : List (Value × Value)}
    (h : ∀ entry ∈ entries, ∃ text, entry.1 = .text text) :
    Binds key v entries (put (.text key) v entries) := by
  induction entries with
  | nil => exact ⟨if_pos rfl, fun other hother => if_neg hother.symm⟩
  | cons entry entries ih =>
    obtain ⟨k, old⟩ := entry
    obtain ⟨text, rfl⟩ : ∃ text, k = .text text := h (k, old) List.mem_cons_self
    obtain ⟨hbound, hothers⟩ := ih fun entry hentry => h entry (List.mem_cons_of_mem _ hentry)
    by_cases htext : text = key
    · subst htext
      simp only [put, sameKey, beq_self_eq_true, if_true]
      exact ⟨if_pos rfl, fun other hother => by simp only [lookup, if_neg hother.symm]⟩
    · have hput : put (.text key) v ((.text text, old) :: entries) =
          (.text text, old) :: put (.text key) v entries := by
        simp [put, sameKey, htext]
      rw [hput]
      refine ⟨(if_neg htext).trans hbound, fun other hother => ?_⟩
      simp only [lookup, hothers other hother]

/-- The template texts that may take the place of a plural placeholder, if `key` binds no rules. -/
inductive Segment.Offers (key : Text) (entries : List (Value × Value)) : Segment → Text → Prop
  | inline {body : Text} {plural : InlinePlural} {tag chosen : Text} :
      (tag, chosen) ∈ plural.categories → Offers key entries (.inline body plural) chosen
  | reference {count rules : Text} {categories : List (Value × Value)} {tag chosen : Text} :
      rules ≠ key → Value.lookup rules entries = some (.map categories) →
      Plural.templateFor categories tag = .ok (some chosen) →
      Offers key entries (.reference count rules) chosen

/-- A template text leads to itself and to what the placeholders in it lead to. -/
inductive Template.Reaches (key : Text) (entries : List (Value × Value)) : Text → Text → Prop
  | refl (source : Text) : Reaches key entries source source
  | step {source chosen last : Text} {t : Template} {s : Segment} :
      Template.parse source = .ok t → s ∈ t.segments → s.Offers key entries chosen →
      Reaches key entries chosen last → Reaches key entries source last

/-- No placeholder that a template text leads to asks for a conversion of what is under the key. -/
def Template.Avoids (key : Text) (entries : List (Value × Value)) (source : Text) : Prop :=
  ∀ reached t, Reaches key entries source reached → parse reached = .ok t →
    ∀ spec, .named key spec ∉ t.segments

theorem Template.Avoids.of_offers {key source chosen : Text} {entries : List (Value × Value)}
    (h : Avoids key entries source) {t : Template} (hparse : parse source = .ok t) {s : Segment}
    (hs : s ∈ t.segments) (hoffers : s.Offers key entries chosen) : Avoids key entries chosen :=
  fun reached t' hreached => h reached t' (.step hparse hs hoffers hreached)

/-- It is enough to look at texts that lead to no others. -/
theorem Template.Avoids.of_closed {key source : Text} {entries : List (Value × Value)}
    (texts : List Text) (hsource : source ∈ texts)
    (h : ∀ text ∈ texts, ∀ t, parse text = .ok t → (∀ spec, .named key spec ∉ t.segments) ∧
      ∀ s ∈ t.segments, ∀ chosen, s.Offers key entries chosen → chosen ∈ texts) :
    Avoids key entries source := by
  intro reached t hreaches
  induction hreaches with
  | refl source => exact fun hparse => (h source hsource t hparse).1
  | step hparse hs hoffers _ ih => exact ih ((h _ hsource _ hparse).2 _ hs _ hoffers)

/-- Parts with a text between them, behind one another: the last of the first parts and the first of
the others become one part. -/
theorem Text.intercalate_append_intercalate {parts others : List Text} (h : parts ≠ [])
    (hothers : others ≠ []) : ∃ joined, joined ≠ [] ∧ ∀ v : Text,
      List.intercalate v parts ++ List.intercalate v others = List.intercalate v joined := by
  induction parts with
  | nil => exact absurd rfl h
  | cons part parts ih =>
    cases parts with
    | nil =>
      obtain ⟨other, others, rfl⟩ := List.exists_cons_of_ne_nil hothers
      refine ⟨(part ++ other) :: others, List.cons_ne_nil _ _, fun v => ?_⟩
      cases others with
      | nil => simp only [List.intercalate_singleton]
      | cons next others =>
        simp only [List.intercalate_singleton, List.intercalate_cons_cons, List.append_assoc]
    | cons next parts =>
      obtain ⟨joined, hjoined, heq⟩ := ih (List.cons_ne_nil _ _)
      refine ⟨part :: joined, List.cons_ne_nil _ _, fun v => ?_⟩
      rw [List.intercalate_cons_cons, List.intercalate_cons_of_ne_nil hjoined, ← heq,
        List.append_assoc]

/-- A setting with another mapping. -/
def Setting.keyed (setting : Setting) (entries : List (Value × Value)) : Setting :=
  { setting with argument := .keyed entries }

/-- For every text under the key, a result is the same error, or it has the same parts with the text
between them. -/
def Verbatim (key : Text) (entries : List (Value × Value))
    (result : List (Value × Value) → Except SubstitutionError Text) : Prop :=
  (∃ error, ∀ v entries', Value.Binds key (.text v) entries entries' →
    result entries' = .error error) ∨
  ∃ parts, parts ≠ [] ∧ ∀ v entries', Value.Binds key (.text v) entries entries' →
    result entries' = .ok (List.intercalate v parts)

section

variable {key : Text} {entries : List (Value × Value)}

namespace Verbatim

theorem of_eq {result : List (Value × Value) → Except SubstitutionError Text}
    (fixed : Except SubstitutionError Text)
    (h : ∀ v entries', Value.Binds key (.text v) entries entries' → result entries' = fixed) :
    Verbatim key entries result := by
  cases fixed with
  | error error => exact .inl ⟨error, h⟩
  | ok text =>
    refine .inr ⟨[text], List.cons_ne_nil _ _, fun v entries' hbinds => ?_⟩
    rw [h v entries' hbinds, List.intercalate_singleton]

theorem congr {result other : List (Value × Value) → Except SubstitutionError Text}
    (h : ∀ v entries', Value.Binds key (.text v) entries entries' →
      other entries' = result entries') (hresult : Verbatim key entries result) :
    Verbatim key entries other := by
  rcases hresult with ⟨error, hresult⟩ | ⟨parts, hparts, hresult⟩
  · exact .inl ⟨error, fun v entries' hbinds =>
      (h v entries' hbinds).trans (hresult v entries' hbinds)⟩
  · exact .inr ⟨parts, hparts, fun v entries' hbinds =>
      (h v entries' hbinds).trans (hresult v entries' hbinds)⟩

theorem append {result next : List (Value × Value) → Except SubstitutionError Text}
    (h : Verbatim key entries result) (hnext : Verbatim key entries next) :
    Verbatim key entries fun entries' => do
      let text ← result entries'
      let rest ← next entries'
      return text ++ rest := by
  rcases h with ⟨error, h⟩ | ⟨parts, hparts, h⟩
  · refine .inl ⟨error, fun v entries' hbinds => ?_⟩
    simp only [h v entries' hbinds]
    rfl
  · rcases hnext with ⟨error, hnext⟩ | ⟨others, hothers, hnext⟩
    · refine .inl ⟨error, fun v entries' hbinds => ?_⟩
      simp only [h v entries' hbinds, hnext v entries' hbinds]
      rfl
    · obtain ⟨joined, hjoined, heq⟩ := Text.intercalate_append_intercalate hparts hothers
      refine .inr ⟨joined, hjoined, fun v entries' hbinds => ?_⟩
      simp only [h v entries' hbinds, hnext v entries' hbinds, ← heq]
      rfl

end Verbatim

namespace Setting

variable {setting : Setting}

theorem choice_of_count?_eq_none {entries : List (Value × Value)} {countKey : Text} {count : Value}
    (hlookup : Value.lookup countKey entries = some count) (hcount : count.count? = none)
    (categories : List (Value × Value) → Option Value) :
    ∃ reason notes, (setting.keyed entries).choice countKey categories =
      (.unchanged reason, notes) := by
  refine exists_unchanged fun _ _ _ _ hcounts => ?_
  cases hcounts.keyed
  cases hlookup.symm.trans hcounts.bound
  cases hcount.symm.trans hcounts.isCount

theorem choice_of_text {entries : List (Value × Value)} {text : Text}
    {categories : List (Value × Value) → Option Value}
    (hcategories : categories entries = some (.text text)) (countKey : Text) :
    ∃ reason notes, (setting.keyed entries).choice countKey categories =
      (.unchanged reason, notes) := by
  refine exists_unchanged fun _ _ _ _ hcounts => ?_
  cases hcounts.keyed
  cases hcategories.symm.trans hcounts.isMap

theorem choice_congr {entries entries' : List (Value × Value)} {countKey : Text}
    {categories : List (Value × Value) → Option Value}
    (hcount : Value.lookup countKey entries' = Value.lookup countKey entries)
    (hcategories : categories entries' = categories entries) :
    (setting.keyed entries').choice countKey categories =
      (setting.keyed entries).choice countKey categories := by
  simp only [choice, keyed, hcount, hcategories]

/-- A template that is chosen is one of those in the categories. -/
theorem templateFor_of_choice {entries : List (Value × Value)} {countKey chosen : Text}
    {categories : List (Value × Value) → Option Value}
    (h : ((setting.keyed entries).choice countKey categories).1 = .template chosen) :
    ∃ rules tag, categories entries = some (.map rules) ∧
      Plural.templateFor rules tag = .ok (some chosen) := by
  obtain ⟨_, _, _, rules, tag, hcounts, -, htemplate⟩ := exists_counts_of_template h
  cases hcounts.keyed
  exact ⟨rules, tag, hcounts.isMap, htemplate⟩

theorem choice_binds (countKey : Text) {categories : List (Value × Value) → Option Value}
    (hcategories : ∀ v entries', Value.Binds key (.text v) entries entries' →
      categories entries' = categories entries) :
    (∀ v entries', Value.Binds key (.text v) entries entries' →
      ∃ reason notes, (setting.keyed entries').choice countKey categories =
        (.unchanged reason, notes)) ∨
    ∀ v entries', Value.Binds key (.text v) entries entries' →
      (setting.keyed entries').choice countKey categories =
        (setting.keyed entries).choice countKey categories := by
  by_cases hkey : countKey = key
  · refine .inl fun v entries' hbinds => ?_
    rw [hkey]
    exact choice_of_count?_eq_none hbinds.bound rfl categories
  · exact .inr fun v entries' hbinds =>
      choice_congr (hbinds.others countKey hkey) (hcategories v entries' hbinds)

/-- A text under the key never decides what is chosen: with the text as the count or as the rules a
placeholder stays as it is written, and otherwise it chooses what it does without the text. -/
theorem choice?_binds (key : Text) {s : Segment} {choice : Plural.Choice × List Note}
    (hchoice : (setting.keyed entries).choice? s = some choice) :
    (∀ v entries', Value.Binds key (.text v) entries entries' →
      ∃ reason notes, (setting.keyed entries').choice? s = some (.unchanged reason, notes)) ∨
    (∀ v entries', Value.Binds key (.text v) entries entries' →
      (setting.keyed entries').choice? s = some choice) ∧
      ∀ chosen, choice.1 = .template chosen → s.Offers key entries chosen := by
  cases s with
  | literal text => cases hchoice
  | positional spec => cases hchoice
  | named key spec => cases hchoice
  | value key => cases hchoice
  | reference count rules =>
    obtain rfl := Option.some.inj hchoice
    simp only [choice?, Option.some.injEq]
    by_cases hrules : rules = key
    · exact .inl fun v entries' hbinds => choice_of_text (hrules ▸ hbinds.bound) count
    · refine (choice_binds count fun _ _ hbinds => hbinds.others rules hrules).imp_right
        fun hsame => ⟨hsame, fun chosen hchosen => ?_⟩
      obtain ⟨categories, tag, hcategories, htemplate⟩ := templateFor_of_choice hchosen
      exact .reference hrules hcategories htemplate
  | inline body plural =>
    obtain rfl := Option.some.inj hchoice
    simp only [choice?, Option.some.injEq]
    refine (choice_binds plural.countKey fun _ _ _ => rfl).imp_right
      fun hsame => ⟨hsame, fun chosen hchosen => ?_⟩
    obtain ⟨categories, tag, hcategories, htemplate⟩ := templateFor_of_choice hchosen
    cases hcategories
    rw [plural.matches_categories.templateFor, Except.ok.injEq] at htemplate
    obtain ⟨before, after, hmem, -⟩ := List.lookup_eq_some_iff.mp htemplate
    have hcategory : (tag, chosen) ∈ plural.categories := by
      rw [hmem]
      simp
    exact .inline hcategory

end Setting

namespace Verbatim

open Rendering (below outcome follow renderSegment renderSegments)

section

variable (setting : Setting) {nested : List (Value × Value) → Text → Text → Rendering Unit Text}

theorem of_choice? {s : Segment} {choice : Plural.Choice × List Note}
    (hchoice : (setting.keyed entries).choice? s = some choice)
    (hindependent : ∀ entries' source chosen, Rendering.Independent (nested entries' source chosen))
    (hnested : ∀ source chosen, s.Offers key entries chosen →
      Verbatim key entries fun entries' => outcome (nested entries' source chosen)) :
    Verbatim key entries fun entries' =>
      outcome (renderSegment (setting.keyed entries') (nested entries') s) := by
  have hfollow {entries' : List (Value × Value)} {choice : Plural.Choice × List Note}
      (h : (setting.keyed entries').choice? s = some choice) :=
    Rendering.outcome_renderSegment_of_choice? (hindependent entries') h
  rcases Setting.choice?_binds key hchoice with hunchanged | ⟨hsame, hoffers⟩
  · refine of_eq (.ok s.source) fun v entries' hbinds => ?_
    obtain ⟨reason, notes, h⟩ := hunchanged v entries' hbinds
    exact hfollow h
  · refine congr (fun v entries' hbinds => hfollow (hsame v entries' hbinds)) ?_
    obtain ⟨choice, notes⟩ := choice
    cases choice with
    | unchanged reason => exact of_eq (.ok s.source) fun _ _ _ => rfl
    | fault fault => exact of_eq (.error (.uncaught fault)) fun _ _ _ => rfl
    | template chosen => exact hnested s.source chosen (hoffers chosen rfl)

/-- A key that is asked for is bound as it is without the text, unless it is the key of the text. -/
theorem outcome_require {entries' : List (Value × Value)} {v : Value}
    (hbinds : Value.Binds key v entries entries') {asked : Text} (h : asked ≠ key)
    (source : Text) : (Rendering.require (.keyed entries') asked source : Rendering Unit Value) =
      Rendering.require (.keyed entries) asked source := by
  simp only [Rendering.require, hbinds.others asked h]

theorem renderSegment {s : Segment} (hs : ∀ spec, s ≠ .named key spec)
    (hindependent : ∀ entries' source chosen, Rendering.Independent (nested entries' source chosen))
    (hnested : ∀ source chosen, s.Offers key entries chosen →
      Verbatim key entries fun entries' => outcome (nested entries' source chosen)) :
    Verbatim key entries fun entries' =>
      outcome (renderSegment (setting.keyed entries') (nested entries') s) := by
  cases s with
  | literal text => exact of_eq (.ok text) fun _ _ _ => rfl
  | positional spec => exact of_eq (.error (.positionalFromMapping _)) fun _ _ _ => rfl
  | named asked spec =>
    have hasked : asked ≠ key := fun h => hs spec (by rw [h])
    refine of_eq (outcome (Rendering.renderSegment (setting.keyed entries) (nested entries)
      (.named asked spec))) fun v entries' hbinds => ?_
    simp only [Rendering.renderSegment, Setting.keyed, outcome_require hbinds hasked]
  | value asked =>
    by_cases hasked : asked = key
    · refine .inr ⟨[[], []], List.cons_ne_nil _ _, fun v entries' hbinds => ?_⟩
      have hbound := hbinds.bound
      simp only [Rendering.renderSegment, Setting.keyed, Rendering.require, hasked, hbound]
      show Except.ok v = .ok (List.intercalate v [[], []])
      rw [List.intercalate_cons_cons, List.intercalate_singleton, List.nil_append, List.append_nil]
    · refine of_eq (outcome (Rendering.renderSegment (setting.keyed entries) (nested entries)
        (.value asked))) fun v entries' hbinds => ?_
      simp only [Rendering.renderSegment, Setting.keyed, outcome_require hbinds hasked]
  | reference count rules => exact of_choice? setting rfl hindependent hnested
  | inline body plural => exact of_choice? setting rfl hindependent hnested

theorem renderSegments {segments : List Segment} (hs : ∀ spec, .named key spec ∉ segments)
    (hindependent : ∀ entries' source chosen, Rendering.Independent (nested entries' source chosen))
    (hnested : ∀ s ∈ segments, ∀ source chosen, s.Offers key entries chosen →
      Verbatim key entries fun entries' => outcome (nested entries' source chosen)) :
    Verbatim key entries fun entries' =>
      outcome (renderSegments (setting.keyed entries') (nested entries') segments) := by
  induction segments with
  | nil => exact of_eq (.ok []) fun _ _ _ => rfl
  | cons s segments ih =>
    simp only [List.mem_cons, not_or] at hs
    have hfirst := renderSegment setting (fun spec h => (hs spec).1 h.symm)
      hindependent (hnested s List.mem_cons_self)
    have hrest := ih (fun spec => (hs spec).2)
      fun other hother => hnested other (List.mem_cons_of_mem s hother)
    exact congr (fun v entries' _ =>
      Rendering.outcome_renderSegments_cons rfl (hindependent entries') s segments)
      (hfirst.append hrest)

end

theorem outcome_fetch (source : Text) : outcome (Rendering.fetch Shelf.bare source) =
    (Template.parse source).mapError .malformed := by
  unfold outcome Rendering.fetch Shelf.bare
  cases Template.parse source <;> rfl

theorem fetch_bind {chosen : Text} {next : List (Value × Value) → Template → Rendering Unit Text}
    (hindependent : ∀ entries' t, Rendering.Independent (next entries' t))
    (hnext : ∀ t, Template.parse chosen = .ok t →
      Verbatim key entries fun entries' => outcome (next entries' t)) :
    Verbatim key entries fun entries' =>
      outcome (Rendering.fetch Shelf.bare chosen >>= next entries') := by
  refine congr (fun v entries' _ =>
    (Rendering.Independent.fetch chosen).outcome_bind (hindependent entries')) ?_
  rw [outcome_fetch]
  cases hparse : Template.parse chosen with
  | error fault => exact of_eq (.error (.malformed fault)) fun _ _ _ => rfl
  | ok t => exact congr (fun _ _ _ => rfl) (hnext t hparse)

/-- What takes the place of a placeholder has the text in the same places at every depth. -/
theorem below (setting : Setting) (levels : Nat) {chosen : Text}
    (havoids : Template.Avoids key entries chosen) (source : Text) :
    Verbatim key entries fun entries' =>
      outcome (Rendering.below Shelf.bare (setting.keyed entries') levels source chosen) := by
  have hindependent (levels : Nat) (entries' : List (Value × Value)) (source chosen : Text) :
      Rendering.Independent
        (Rendering.below Shelf.bare (setting.keyed entries') levels source chosen) :=
    .below rfl levels source chosen
  -- On the levels that are left: what a template offers avoids the key because the template does.
  induction levels generalizing source chosen with
  | zero => exact of_eq (.error (.tooDeep setting.limit source)) fun _ _ _ => rfl
  | succ levels ih =>
    refine fetch_bind (fun entries' t => ?_) fun t hparse => ?_
    · rw [Rendering.render_eq_below]
      exact .renderSegments rfl (hindependent levels entries') t.segments
    · simp only [Rendering.render_eq_below]
      exact renderSegments setting (havoids chosen t (.refl chosen) hparse) (hindependent levels)
        fun s hs source' chosen' hoffers => ih (havoids.of_offers hparse hs hoffers) source'

end Verbatim

end

/-- Where no placeholder that a text leads to asks for a conversion of what is under the key, the
text under the key is copied: a call fails with the same error whatever that text is, or its result
is made of the same parts with the text between them. -/
theorem Engine.format_verbatim {e : Engine} (he : e.Reachable) {source key : Text}
    {entries : List (Value × Value)} (havoids : Template.Avoids key entries source)
    (locale : Option Text) :
    (∃ error, ∀ v entries', Value.Binds key (.text v) entries entries' →
      (e.format source (.map entries') locale).1.text = .error error) ∨
    ∃ parts, parts ≠ [] ∧ ∀ v entries', Value.Binds key (.text v) entries entries' →
      (e.format source (.map entries') locale).1.text = .ok (List.intercalate v parts) := by
  let setting := e.callSetting (.map entries) locale
  show Verbatim key entries fun entries' => (e.format source (.map entries') locale).1.text
  cases hparse : Template.parse source with
  | error fault =>
    refine .of_eq (.error (.malformed fault)) fun _ entries' _ => ?_
    rw [he.format_of_parse_error hparse]
  | ok t =>
    have hindependent (entries' : List (Value × Value)) (source chosen : Text) :
        Rendering.Independent
          (Rendering.below Shelf.bare (setting.keyed entries') setting.limit source chosen) :=
      .below rfl setting.limit source chosen
    have hrender := Verbatim.renderSegments setting (havoids source t (.refl source) hparse)
      hindependent fun s hs source' chosen hoffers =>
        .below setting setting.limit (havoids.of_offers hparse hs hoffers) source'
    refine .congr (fun _ entries' _ => ?_) hrender
    rw [he.format_of_parse hparse, Template.text_filled_eq_outcome]
    rfl

open Text (lit)

set_option maxRecDepth 4000 in
/-- The text stands where the template that the rules bind to `one` asks for it, though it reads
like a placeholder. -/
theorem Engine.format_verbatim_placeholder :
    let key := lit "k"
    let source := lit "%\x7bn:r\x7d"
    let chosen := lit "%\x7bk\x7d!"
    let entries : List (Value × Value) :=
      [(.text (lit "n"), .int 1), (.text (lit "r"), .map [(.text (lit "one"), .text chosen)])]
    let text (v : Text) :=
      (singular.format source (.map (Value.put (.text key) (.text v) entries)) none).1.text
    Template.Avoids key entries source ∧
      text (lit "%\x7bk\x7d") = .ok (lit "%\x7bk\x7d!") ∧
      ∃ parts, parts ≠ [] ∧ ∀ v, text v = .ok (List.intercalate v parts) := by
  intro key source chosen entries text
  have hsource : Template.parse source =
      .ok ⟨source, [.reference (lit "n") (lit "r")]⟩ := by
    simp only [source]
    cbv
  have hchosen : Template.parse chosen = .ok ⟨chosen, [.value key, .literal (lit "!")]⟩ := by
    simp only [chosen, key]
    cbv
  have htext : text (lit "%\x7bk\x7d") = .ok (lit "%\x7bk\x7d!") := by
    simp only [text, source, chosen, entries, key]
    cbv
  have hbinds (v : Text) :
      Value.Binds key (.text v) entries (Value.put (.text key) (.text v) entries) :=
    Value.binds_put key (.text v) (by simp [entries])
  have havoids : Template.Avoids key entries source := by
    refine .of_closed [source, chosen] List.mem_cons_self ?_
    intro text' htext' t hparse
    rcases List.mem_pair.mp htext' with rfl | rfl
    · cases hsource.symm.trans hparse
      refine ⟨by simp, ?_⟩
      intro s hs other hoffers
      cases List.mem_singleton.mp hs
      obtain _ | ⟨-, hrules, htemplate⟩ := hoffers
      cases hrules
      simp only [Plural.templateFor, Value.lookup] at htemplate
      split at htemplate
      · cases htemplate
      · cases htemplate
      · next found _ hfound =>
        split at hfound
        · cases hfound
          cases htemplate
          exact List.mem_cons_of_mem _ List.mem_cons_self
        · cases hfound
    · cases hchosen.symm.trans hparse
      refine ⟨by simp, fun s hs other hoffers => ?_⟩
      rcases List.mem_pair.mp hs with rfl | rfl <;> cases hoffers
  refine ⟨havoids, htext, ?_⟩
  have hverbatim := format_verbatim (e := singular) (.create _ _) havoids none
  rcases hverbatim with ⟨error, herror⟩ | ⟨parts, hparts, hresult⟩
  · have hfailed : text (lit "%\x7bk\x7d") = .error error := herror _ _ (hbinds _)
    rw [htext] at hfailed
    cases hfailed
  · exact ⟨parts, hparts, fun v => hresult v _ (hbinds v)⟩

end Phrasebook
