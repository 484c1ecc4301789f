import Mathlib.Data.List.Nodup
import Phrasebook.Engine.Basic

/-! Settings read from mappings.  What a mapping binds to a setting is checked, one setting after
the other, and what it does not bind is as usual.  Other keys are listed in one note, in order, and
have no effect; but they must be text. -/

namespace Phrasebook

open Text (lit)

namespace Text

theorem before_cons_iff {a b : Nat} {s t : Text} :
    before (a :: s) (b :: t) ↔ a < b ∨ a = b ∧ before s t := by
  simp [before]

/-- Texts are ordered by their code points. -/
theorem before_iff_lex {s t : Text} : before s t ↔ List.Lex (· < ·) s t := by
  induction s generalizing t with
  | nil => cases t <;> simp [before]
  | cons a s ih =>
    cases t with
    | nil => simp [before]
    | cons b t => rw [before_cons_iff, List.cons_lex_cons_iff, ih]

theorem not_before_of_before {s t : Text} (h : before s t) : ¬before t s := by
  induction s generalizing t with
  | nil => simp [before]
  | cons a s ih =>
    cases t with
    | nil => cases h
    | cons b t =>
      rw [before_cons_iff] at h ⊢
      rintro (hlt | ⟨rfl, hbefore⟩)
      · omega
      · exact ih (h.resolve_left (Nat.lt_irrefl b)).2 hbefore

/-- Of a text and one that it comes before, the first comes before every third one, or that one
before the second. -/
theorem before_or_before {s u : Text} (h : before s u) (t : Text) : before t u ∨ before s t := by
  induction u generalizing s t with
  | nil => cases s <;> cases h
  | cons c u ih =>
    cases t with
    | nil => exact .inl rfl
    | cons b t =>
      cases s with
      | nil => exact .inr rfl
      | cons a s =>
        rw [before_cons_iff] at h ⊢
        rw [before_cons_iff]
        rcases Nat.lt_trichotomy b c with hbc | rfl | hcb
        · exact .inl (.inl hbc)
        · rcases h with hlt | ⟨rfl, hbefore⟩
          · exact .inr (.inl hlt)
          · exact (ih hbefore t).imp (fun h => .inr ⟨rfl, h⟩) fun h => .inr ⟨rfl, h⟩
        · exact .inr (.inl (by omega))

/-- Sorting puts nothing before what comes before it. -/
theorem pairwise_sorted (texts : List Text) :
    (texts.mergeSort fun s t => !before t s).Pairwise fun s t => ¬List.Lex (· < ·) t s := by
  have htrans : ∀ s t u : Text, (!before t s) = true → (!before u t) = true →
      (!before u s) = true := by
    simp only [Bool.not_eq_true', ← Bool.not_eq_true]
    exact fun s t u hst htu hus => (before_or_before hus t).elim hst htu
  have htotal : ∀ s t : Text, ((!before t s) || !before s t) = true := by
    intro s t
    simp only [Bool.or_eq_true, Bool.not_eq_true', ← Bool.not_eq_true]
    exact (Decidable.em (before s t = true)).imp not_before_of_before id
  refine (List.pairwise_mergeSort htrans htotal texts).imp fun h => ?_
  rwa [← before_iff_lex, Bool.not_eq_true, ← Bool.not_eq_true']

end Text

namespace Settings

variable {entries : List (Value × Value)}

/-! ### Settings by name -/

/-- A setting. -/
inductive Key where
  | locale
  | limit (limit : Limit)
  deriving DecidableEq

namespace Key

def name : Key → Text
  | locale => localeName
  | limit l => l.name

/-- That the setting is bound to what it may not be. -/
def fault : Key → Fault
  | locale => .emptyLocale
  | limit l => .notPositive l

/-- How many settings are looked at before. -/
def rank : Key → Nat
  | locale => 0
  | limit .maxDepth => 1
  | limit .cacheSize => 2

/-- A value that the setting may have: a text that is not empty, or a positive integer. -/
inductive Allows : Key → Value → Prop
  | locale {t : Text} : t ≠ [] → Allows .locale (.text t)
  | limit {l : Limit} {n : Int} : 0 < n → Allows (.limit l) (.int n)

/-- The mapping binds the setting to what it may not be. -/
def Refused (key : Key) (entries : List (Value × Value)) : Prop :=
  ∃ v, Value.lookup key.name entries = some v ∧ ¬key.Allows v

/-- The setting is refused, and none that is looked at before. -/
structure IsFirstRefused (key : Key) (entries : List (Value × Value)) : Prop where
  refused : key.Refused entries
  first : ∀ other : Key, other.rank < key.rank → ¬other.Refused entries

theorem allows_of_not_refused {key : Key} {v : Value} (h : ¬key.Refused entries)
    (hv : Value.lookup key.name entries = some v) : key.Allows v := by
  by_contra hnot
  exact h ⟨v, hv, hnot⟩

end Key

/-- The value that settings give to a setting. -/
def value (settings : Settings) : Key → Value
  | .locale => .text settings.locale
  | .limit .maxDepth => .int settings.maxDepth
  | .limit .cacheSize => .int settings.cacheSize

/-- The settings give to every setting what the mapping binds it to, or what is usual. -/
def Follow (settings : Settings) (entries : List (Value × Value)) : Prop :=
  ∀ key : Key, settings.value key = (Value.lookup key.name entries).getD (usual.value key)

theorem readLocale_of_refused (h : Key.locale.Refused entries) :
    readLocale entries = .error .emptyLocale := by
  obtain ⟨v, hlookup, hv⟩ := h
  change Value.lookup localeName entries = some v at hlookup
  unfold readLocale
  rw [hlookup]
  split
  · next hnone => cases hnone
  · next htext =>
    cases htext
    exact absurd (.locale (List.cons_ne_nil _ _)) hv
  · rfl

theorem readLocale_of_not_refused (h : ¬Key.locale.Refused entries) :
    ∃ locale, readLocale entries = .ok locale ∧
      .text locale = (Value.lookup localeName entries).getD (.text usualLocale) := by
  unfold readLocale
  cases hlookup : Value.lookup localeName entries with
  | none => exact ⟨usualLocale, rfl, rfl⟩
  | some v =>
    cases Key.allows_of_not_refused h hlookup with
    | @locale t ht =>
      obtain ⟨c, rest, rfl⟩ := List.exists_cons_of_ne_nil ht
      exact ⟨c :: rest, rfl, rfl⟩

theorem readLimit_of_refused {l : Limit} (h : (Key.limit l).Refused entries) :
    readLimit l entries = .error (.notPositive l) := by
  obtain ⟨v, hlookup, hv⟩ := h
  change Value.lookup l.name entries = some v at hlookup
  unfold readLimit
  rw [hlookup]
  split
  · next hnone => cases hnone
  · next n hint =>
    cases hint
    exact dif_neg fun hn => hv (.limit hn)
  · rfl

theorem readLimit_of_not_refused {l : Limit} (h : ¬(Key.limit l).Refused entries) :
    ∃ n, readLimit l entries = .ok n ∧
      .int n = (Value.lookup l.name entries).getD (.int l.usual) := by
  unfold readLimit
  cases hlookup : Value.lookup l.name entries with
  | none => exact ⟨_, rfl, rfl⟩
  | some v =>
    cases Key.allows_of_not_refused h hlookup with
    | @limit _ n hn =>
      refine ⟨⟨n.toNat, by omega⟩, dif_pos hn, ?_⟩
      exact congrArg Value.int (Int.toNat_of_nonneg (Int.le_of_lt hn))

/-! ### The settings of a mapping -/

theorem ofEntries_of_isFirstRefused {key : Key} (h : key.IsFirstRefused entries) :
    ofEntries entries = .error key.fault := by
  have hfirst := h.first
  unfold ofEntries
  cases key with
  | locale =>
    rw [readLocale_of_refused h.refused]
    rfl
  | limit l =>
    have hlocale := hfirst .locale (by cases l <;> decide)
    obtain ⟨locale, hlocale, -⟩ := readLocale_of_not_refused hlocale
    rw [hlocale]
    cases l with
    | maxDepth =>
      rw [readLimit_of_refused h.refused]
      rfl
    | cacheSize =>
      have hdepth := hfirst (.limit .maxDepth) (by decide)
      obtain ⟨maxDepth, hdepth, -⟩ := readLimit_of_not_refused hdepth
      rw [hdepth, readLimit_of_refused h.refused]
      rfl

theorem ofEntries_of_not_refused (h : ∀ key : Key, ¬key.Refused entries) :
    ∃ settings, ofEntries entries = .ok settings ∧ settings.Follow entries := by
  obtain ⟨locale, hlocale, hlocale'⟩ := readLocale_of_not_refused (h .locale)
  obtain ⟨maxDepth, hdepth, hdepth'⟩ := readLimit_of_not_refused (h (.limit .maxDepth))
  obtain ⟨cacheSize, hsize, hsize'⟩ := readLimit_of_not_refused (h (.limit .cacheSize))
  refine ⟨⟨locale, maxDepth, cacheSize, maxDepth.2, cacheSize.2⟩, ?_, fun key => ?_⟩
  · unfold ofEntries
    rw [hlocale, hdepth, hsize]
    rfl
  · cases key with
    | locale => exact hlocale'
    | limit l =>
      cases l with
      | maxDepth => exact hdepth'
      | cacheSize => exact hsize'

theorem exists_isFirstRefused (h : ∃ key : Key, key.Refused entries) :
    ∃ key : Key, key.IsFirstRefused entries := by
  obtain ⟨key, hkey⟩ := h
  induction hrank : key.rank using Nat.strongRecOn generalizing key with
  | _ n ih =>
    subst hrank
    by_cases hbefore : ∃ other : Key, other.rank < key.rank ∧ other.Refused entries
    · obtain ⟨other, hother, hrefused⟩ := hbefore
      exact ih other.rank hother other hrefused rfl
    · exact ⟨key, hkey, fun other hother hrefused => hbefore ⟨other, hother, hrefused⟩⟩

theorem ofEntries_eq_error_iff {fault : Fault} : ofEntries entries = .error fault ↔
    ∃ key : Key, key.IsFirstRefused entries ∧ fault = key.fault := by
  constructor
  · intro h
    by_cases hrefused : ∃ key : Key, key.Refused entries
    · obtain ⟨key, hkey⟩ := exists_isFirstRefused hrefused
      rw [ofEntries_of_isFirstRefused hkey] at h
      exact ⟨key, hkey, (Except.error.inj h).symm⟩
    · obtain ⟨settings, hsettings, -⟩ := ofEntries_of_not_refused (not_exists.mp hrefused)
      rw [hsettings] at h
      cases h
  · rintro ⟨key, hkey, rfl⟩
    exact ofEntries_of_isFirstRefused hkey

/-- Settings are what they give to every setting. -/
theorem ext_value {s t : Settings} (h : ∀ key, s.value key = t.value key) : s = t := by
  have hlocale : s.locale = t.locale := Value.text.inj (h .locale)
  have hdepth : s.maxDepth = t.maxDepth := Int.ofNat.inj (Value.int.inj (h (.limit .maxDepth)))
  have hsize : s.cacheSize = t.cacheSize := Int.ofNat.inj (Value.int.inj (h (.limit .cacheSize)))
  cases s
  cases t
  cases hlocale
  cases hdepth
  cases hsize
  rfl

theorem ofEntries_eq_ok_iff {settings : Settings} : ofEntries entries = .ok settings ↔
    (∀ key : Key, ¬key.Refused entries) ∧ settings.Follow entries := by
  constructor
  · intro h
    have hnone : ∀ key : Key, ¬key.Refused entries := by
      intro key hrefused
      obtain ⟨first, hfirst⟩ := exists_isFirstRefused ⟨key, hrefused⟩
      rw [ofEntries_of_isFirstRefused hfirst] at h
      cases h
    obtain ⟨settings', hsettings, hfollow⟩ := ofEntries_of_not_refused hnone
    rw [h] at hsettings
    cases hsettings
    exact ⟨hnone, hfollow⟩
  · rintro ⟨hnone, hfollow⟩
    obtain ⟨settings', hsettings, hfollow'⟩ := ofEntries_of_not_refused hnone
    obtain rfl : settings' = settings :=
      ext_value fun key => (hfollow' key).trans (hfollow key).symm
    exact hsettings

/-! ### Other keys -/

/-- The texts are the keys that name no setting, in order. -/
structure ListsUnknown (entries : List (Value × Value)) (names : List Text) : Prop where
  mem_iff : ∀ t, t ∈ names ↔ .text t ∈ entries.map Prod.fst ∧ ∀ key : Key, t ≠ key.name
  sorted : names.Pairwise fun s t => ¬List.Lex (· < ·) t s
  nodup : (entries.map Prod.fst).Nodup → names.Nodup

/-- All keys are text. -/
def HasTextKeys (entries : List (Value × Value)) : Prop :=
  ∀ key ∈ entries.map Prod.fst, ∃ t, key = .text t

theorem isKnown_text_iff {t : Text} : isKnown (.text t) ↔ ∃ key : Key, t = key.name := by
  simp only [isKnown, Bool.or_eq_true, beq_iff_eq]
  constructor
  · rintro ((h | h) | h)
    · exact ⟨.locale, h⟩
    · exact ⟨.limit .maxDepth, h⟩
    · exact ⟨.limit .cacheSize, h⟩
  · rintro ⟨_ | ⟨_ | _⟩, h⟩
    · exact .inl (.inl h)
    · exact .inl (.inr h)
    · exact .inr h

/-- That keys are no text. -/
inductive Fault.OfKeys : Fault → Prop
  | notText (kind : Text) : OfKeys (.keyNotText kind)
  | notOrdered (left right : Text) : OfKeys (.keysNotOrdered left right)

theorem ofKeys_unlistable (first : Value) (others : List Value) :
    (unlistable first others).OfKeys := by
  unfold unlistable
  split
  · exact .notOrdered _ _
  · exact .notText _

theorem unknownNames_of_hasTextKeys (h : HasTextKeys entries) :
    ∃ names, unknownNames entries = .ok names ∧ ListsUnknown entries names := by
  unfold unknownNames
  dsimp only
  split
  · refine ⟨_, rfl, fun t => ?_, Text.pairwise_sorted _, fun hnodup => ?_⟩
    · simp only [List.mem_mergeSort, List.mem_filterMap, List.mem_filter]
      constructor
      · rintro ⟨key, ⟨hkey, hunknown⟩, htext⟩
        obtain ⟨t', rfl⟩ := h key hkey
        obtain rfl : t' = t := Option.some.inj htext
        refine ⟨hkey, fun name hname => ?_⟩
        rw [isKnown_text_iff.mpr ⟨name, hname⟩] at hunknown
        cases hunknown
      · rintro ⟨hmem, hother⟩
        refine ⟨.text t, ⟨hmem, ?_⟩, rfl⟩
        rw [Bool.not_eq_true', ← Bool.not_eq_true, isKnown_text_iff]
        exact fun ⟨key, hkey⟩ => hother key hkey
    · refine (List.mergeSort_perm _ _).nodup_iff.mpr ((hnodup.filter _).filterMap ?_)
      intro key key' t ht ht'
      split at ht
      · split at ht'
        · cases ht
          cases ht'
          rfl
        · cases ht'
      · cases ht
  · next other others hothers _ =>
    have hmem := List.mem_filter.mp (hothers ▸ List.mem_cons_self : other ∈ List.filter _ _)
    obtain ⟨t, rfl⟩ := h other (List.mem_filter.mp hmem.1).1
    cases hmem.2
  · next other others _ _ hothers _ =>
    have hmem := List.mem_filter.mp (hothers ▸ List.mem_cons_self : other ∈ List.filter _ _)
    obtain ⟨t, rfl⟩ := h other (List.mem_filter.mp hmem.1).1
    cases hmem.2

theorem unknownNames_of_not_hasTextKeys (h : ¬HasTextKeys entries) :
    ∃ fault, unknownNames entries = .error fault ∧ fault.OfKeys := by
  unfold unknownNames
  dsimp only
  split
  · next hothers =>
    refine absurd (fun key hkey => ?_) h
    by_contra hkind
    have hunknown : isKnown key = false := by
      cases key with
      | text t => exact absurd ⟨t, rfl⟩ hkind
      | _ => rfl
    refine List.filter_eq_nil_iff.mp hothers key ?_ ?_
    · exact List.mem_filter.mpr ⟨hkey, by rw [hunknown]; rfl⟩
    · cases key with
      | text t => exact absurd ⟨t, rfl⟩ hkind
      | _ => rfl
  · exact ⟨_, rfl, ofKeys_unlistable _ _⟩
  · exact ⟨_, rfl, .notOrdered _ _⟩

/-! ### The engine of settings -/

/-- The engine that settings make, of which the numbers are checked once more. -/
def engine? (settings : Settings) (classifier : Plural.Classifier) : Except Fault Engine :=
  (ofNumbers settings.locale settings.maxDepth settings.cacheSize).map (Engine.create · classifier)

theorem positive_natCast (l : Limit) {n : Nat} (h : 0 < n) : positive l n = .ok ⟨n, h⟩ :=
  dif_pos (Int.natCast_pos.mpr h)

theorem engine?_eq (settings : Settings) (classifier : Plural.Classifier) :
    settings.engine? classifier = .ok (Engine.create settings classifier) := by
  unfold engine? ofNumbers
  rw [positive_natCast _ settings.maxDepth_pos, positive_natCast _ settings.cacheSize_pos]
  rfl

theorem Key.message_fault (key : Key) : ∃ rest, key.fault.message = key.name ++ rest := by
  cases key with
  | locale => exact ⟨lit " must be a non-empty string", by decide⟩
  | limit l => exact ⟨_, rfl⟩

/-! ### What is read -/

/-- The outcome is what the mapping tells.  It fails if a setting is refused, for the first such
one, which it names.  Otherwise every setting is as it is bound or as usual, and an engine can be
made of them.  One warning lists the keys that name no setting, if there are any. -/
structure Faithful (entries : List (Value × Value))
    (outcome : Except Fault Settings × List Note) : Prop where
  fails_iff : ∀ fault, outcome.1 = .error fault ↔
    ∃ key : Key, key.IsFirstRefused entries ∧ fault = key.fault ∧
      ∃ rest, fault.message = key.name ++ rest
  reads_iff : ∀ settings, outcome.1 = .ok settings ↔
    (∀ key : Key, ¬key.Refused entries) ∧ settings.Follow entries
  notes : ∃ names, ListsUnknown entries names ∧
    outcome.2 = if names = [] then [] else [.unknownSettings names]
  warns : ∀ note ∈ outcome.2, note.level = .warning
  usable : ∀ settings, outcome.1 = .ok settings → ∀ classifier, ∃ engine,
    settings.engine? classifier = .ok engine ∧ engine.settings.locale = settings.locale ∧
      engine.settings.maxDepth = settings.maxDepth

theorem ofMapping_of_unknownNames {names : List Text}
    (h : unknownNames (inSection entries) = .ok names) : ofMapping entries =
      (ofEntries (inSection entries), if names = [] then [] else [.unknownSettings names]) := by
  unfold ofMapping
  dsimp only
  rw [h]
  cases names <;> rfl

/-- Where all keys are text, a mapping is read faithfully; where one is none, the reading fails. -/
theorem ofMapping_reads (entries : List (Value × Value)) :
    (HasTextKeys (inSection entries) → Faithful (inSection entries) (ofMapping entries)) ∧
      (¬HasTextKeys (inSection entries) →
        ∃ fault, fault.OfKeys ∧ ofMapping entries = (.error fault, [])) := by
  constructor
  · intro h
    obtain ⟨names, hnames, hlists⟩ := unknownNames_of_hasTextKeys h
    rw [ofMapping_of_unknownNames hnames]
    refine ⟨fun fault => ?_, fun settings => ofEntries_eq_ok_iff, ⟨names, hlists, rfl⟩, ?_, ?_⟩
    · rw [ofEntries_eq_error_iff]
      constructor
      · rintro ⟨key, hfirst, rfl⟩
        exact ⟨key, hfirst, rfl, key.message_fault⟩
      · rintro ⟨key, hfirst, hfault, -⟩
        exact ⟨key, hfirst, hfault⟩
    · intro note hnote
      dsimp only at hnote
      split at hnote
      · cases hnote
      · rw [List.mem_singleton.mp hnote]
        rfl
    · exact fun settings _ classifier => ⟨_, engine?_eq settings classifier, rfl, rfl⟩
  · intro h
    obtain ⟨fault, hunknown, hfault⟩ := unknownNames_of_not_hasTextKeys h
    refine ⟨fault, hfault, ?_⟩
    unfold ofMapping
    dsimp only
    rw [hunknown]

/-- A section goes before the settings around it; a number as a key is faulted. -/
theorem ofMapping_reads_section :
    (∃ settings, (ofMapping [(.text (lit "localized_format"),
        .map [(.text (lit "zeta"), .none), (.text (lit "max_depth"), .int 4)]),
        (.text (lit "max_depth"), .int 0)]).1 = .ok settings ∧ settings.maxDepth = 4) ∧
      ∃ fault, ofMapping [(.int 1, .text (lit "x"))] = (.error fault, []) := by
  constructor
  · have hkeys : HasTextKeys [(.text (lit "zeta"), .none), (.text (lit "max_depth"), .int 4)] :=
      List.forall_mem_cons.mpr ⟨⟨_, rfl⟩, List.forall_mem_singleton.mpr ⟨_, rfl⟩⟩
    have hreads := (ofMapping_reads [(.text (lit "localized_format"),
        .map [(.text (lit "zeta"), .none), (.text (lit "max_depth"), .int 4)]),
        (.text (lit "max_depth"), .int 0)]).1 hkeys
    refine ⟨⟨usualLocale, 4, 2048, by decide, by decide⟩, (hreads.reads_iff _).mpr ⟨?_, ?_⟩, rfl⟩
    · rintro (_ | _ | _) ⟨v, hlookup, hv⟩
      · cases hlookup
      · cases hlookup
        exact hv (.limit (by decide))
      · cases hlookup
    · rintro (_ | _ | _) <;> rfl
  · obtain ⟨fault, -, hfault⟩ := (ofMapping_reads [(.int 1, .text (lit "x"))]).2 fun h =>
      nomatch h (.int 1) List.mem_cons_self
    exact ⟨fault, hfault⟩

/-- A number as a key refuses no setting, but the reading fails. -/
theorem ofMapping_integerKey :
    (∀ key : Key, ¬key.Refused (inSection [(.int 1, .text (lit "x"))])) ∧
      ofMapping [(.int 1, .text (lit "x"))] = (.error (.keyNotText (lit "int")), []) := by
  constructor
  · rintro key ⟨v, hlookup, -⟩
    cases hlookup
  · rfl

end Settings

end Phrasebook
