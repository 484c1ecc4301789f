import Phrasebook.Proofs.Engine.Memory

/-! What a cache holds.  Each text that was looked up in vain and could be parsed is put on a
record; the texts in the cache are the last ones of the record, and how many they are depends on
nothing but its length. -/

namespace Phrasebook

namespace Cache

/-- How many templates a cache holds behind `misses` insertions. -/
def held (size misses : Nat) : Nat :=
  if misses ≤ size then misses
  else size - leaving size + 1 + (misses - size - 1) % leaving size

section Held

variable {size : Nat}

theorem leaving_pos (size : Nat) : 0 < leaving size := by
  unfold leaving
  split <;> omega

theorem leaving_le (h : 0 < size) : leaving size ≤ size := by
  unfold leaving
  split <;> omega

theorem held_of_le {misses : Nat} (h : misses ≤ size) : held size misses = misses := if_pos h

/-- Behind the first insertion into a full cache, the number goes round. -/
theorem held_add (size turns : Nat) : held size (size + 1 + turns) =
    size - leaving size + 1 + turns % leaving size := by
  rw [held, if_neg (by omega), show size + 1 + turns - size - 1 = turns by omega]

/-- One more insertion: a full cache loses what leaves at once. -/
theorem held_succ (h : 0 < size) (misses : Nat) : held size (misses + 1) =
    if size ≤ held size misses then held size misses - leaving size + 1
    else held size misses + 1 := by
  have hpos := leaving_pos size
  have hle := leaving_le h
  -- The cache fills up, it is full for the first time, or it goes round.
  rcases Nat.lt_trichotomy misses size with hlt | rfl | hgt
  · rw [held_of_le hlt, held_of_le (Nat.le_of_lt hlt), if_neg (by omega)]
  · have hfirst := held_add misses 0
    rw [Nat.add_zero, Nat.zero_mod, Nat.add_zero] at hfirst
    rw [held_of_le (Nat.le_refl misses), if_pos (Nat.le_refl misses), hfirst]
  · obtain ⟨turns, rfl⟩ := Nat.exists_eq_add_of_le hgt
    have hmod := Nat.mod_lt turns hpos
    rw [Nat.succ_eq_add_one, Nat.add_assoc (size + 1), held_add, held_add]
    by_cases hfull : turns % leaving size + 1 = leaving size
    · rw [← Nat.mod_add_mod, hfull, Nat.mod_self, if_pos (by omega)]
      omega
    · rw [← Nat.mod_add_mod, Nat.mod_eq_of_lt (by omega), if_neg (by omega)]
      omega

example : (List.range 12).map (held 8) = [0, 1, 2, 3, 4, 5, 6, 7, 8, 7, 8, 7] := by decide

theorem held_le (size misses : Nat) : held size misses ≤ misses := by
  rcases Nat.lt_or_ge size misses with hlt | hle
  · obtain ⟨turns, rfl⟩ := Nat.exists_eq_add_of_le hlt
    have hmod := Nat.mod_le turns (leaving size)
    rw [Nat.succ_eq_add_one, held_add]
    omega
  · exact Nat.le_of_eq (held_of_le hle)

theorem held_le_size (h : 0 < size) (misses : Nat) : held size misses ≤ size := by
  rcases Nat.lt_or_ge size misses with hlt | hle
  · obtain ⟨turns, rfl⟩ := Nat.exists_eq_add_of_le hlt
    have hmod := Nat.mod_lt turns (leaving_pos size)
    have hleaving := leaving_le h
    rw [Nat.succ_eq_add_one, held_add]
    omega
  · rw [held_of_le hle]
    exact hle

theorem le_held {misses : Nat} (hsize : 0 < size) (h : size ≤ misses) :
    size - leaving size + 1 ≤ held size misses := by
  rcases Nat.lt_or_eq_of_le h with hlt | rfl
  · obtain ⟨turns, rfl⟩ := Nat.exists_eq_add_of_le hlt
    rw [Nat.succ_eq_add_one, held_add]
    exact Nat.le_add_right _ _
  · have hpos := leaving_pos size
    rw [held_of_le (Nat.le_refl size)]
    omega

end Held

theorem find?_eq_none_iff {cache : Cache} {source : Text} :
    cache.find? source = none ↔ source ∉ cache.sources := by
  unfold find? sources
  rw [List.lookup_eq_none_iff, List.mem_map]
  constructor
  · rintro h ⟨entry, hentry, rfl⟩
    simpa using h entry hentry
  · intro h entry hentry
    simpa using fun heq : source = entry.1 => h ⟨entry, hentry, heq.symm⟩

theorem sources_insert (size : Nat) (cache : Cache) (source : Text) (t : Template) :
    (cache.insert size (source, t)).sources =
      if size ≤ cache.sources.length then cache.sources.drop (leaving size) ++ [source]
      else cache.sources ++ [source] := by
  unfold insert sources
  rw [List.length_map]
  split
  · rw [List.map_append, List.map_drop]
    rfl
  · rw [List.map_append]
    rfl

/-- What is found, and what cannot be parsed, leaves the cache as it is. -/
theorem fetch_eq_self {size : Nat} {cache : Cache} {source : Text}
    (h : source ∈ cache.sources ∨ ∃ fault, Template.parse source = .error fault) :
    (fetch size source cache).2 = cache := by
  unfold fetch
  cases hfind : cache.find? source with
  | some t => rfl
  | none =>
    rcases h with hmem | ⟨fault, hparse⟩
    · exact absurd hmem (find?_eq_none_iff.mp hfind)
    · simp only [hparse]

end Cache

/-- The cache with the template of a text, if the text has one. -/
def Cache.enter (size : Nat) (cache : Cache) (source : Text) : Cache :=
  match Template.parse source with
  | .ok t => cache.insert size (source, t)
  | .error _ => cache

/-- A cache, and the texts that it did not hold when they were looked up, if they could be
parsed. -/
structure Ledger where
  cache : Cache
  misses : List Text

namespace Ledger

def empty : Ledger := ⟨.empty, []⟩

/-- The template of a text from the cache, with a miss on the record. -/
def fetch (size : Nat) : Shelf Ledger := fun source ledger =>
  let found := Cache.fetch size source ledger.cache
  let missed := source ∉ ledger.cache.sources ∧ found.1.isOk
  (found.1, ⟨found.2, if missed then ledger.misses ++ [source] else ledger.misses⟩)

/-- The ledger behind a miss. -/
def miss (size : Nat) (ledger : Ledger) (source : Text) : Ledger :=
  ⟨ledger.cache.enter size source, ledger.misses ++ [source]⟩

/-- A property of ledgers that every miss keeps. -/
def MissKeeps (size : Nat) (P : Ledger → Prop) : Prop :=
  ∀ ledger source, P ledger → source ∉ ledger.cache.sources →
    (∃ t, Template.parse source = .ok t) → P (ledger.miss size source)

/-- A look-up is a miss or changes nothing, so that it keeps what every miss keeps. -/
theorem fetch_agree {size : Nat} {P : Ledger → Prop} (hmiss : MissKeeps size P) :
    Shelf.Agree (fun cache ledger => ledger.cache = cache ∧ P ledger) (Cache.fetch size)
      (fetch size) := by
  rintro source _ ledger ⟨rfl, h⟩
  refine ⟨rfl, rfl, ?_⟩
  by_cases hmem : source ∈ ledger.cache.sources
  · have hself : (Cache.fetch size source ledger.cache).2 = ledger.cache :=
      Cache.fetch_eq_self (.inl hmem)
    have hsame : (fetch size source ledger).2 = ledger := by
      simp only [fetch, hself, hmem, not_true_eq_false, false_and, if_false]
    rw [hsame]
    exact h
  · have hfind := Cache.find?_eq_none_iff.mpr hmem
    cases hparse : Template.parse source with
    | error fault =>
      have hsame : (fetch size source ledger).2 = ledger := by
        simp [fetch, Cache.fetch, hfind, hparse, Except.isOk, Except.toBool]
      rw [hsame]
      exact h
    | ok t =>
      have hmissed : (fetch size source ledger).2 = ledger.miss size source := by
        simp [fetch, Cache.fetch, miss, Cache.enter, hfind, hmem, hparse, Except.isOk, Except.toBool]
      rw [hmissed]
      exact hmiss ledger source h hmem ⟨t, hparse⟩

/-- The record has at least `least` texts, and the cache holds the last ones, as many as fit. -/
structure Recorded (size least : Nat) (ledger : Ledger) : Prop where
  least : least ≤ ledger.misses.length
  sources : ledger.cache.sources =
    ledger.misses.drop (ledger.misses.length - Cache.held size ledger.misses.length)
  nodup : ledger.cache.sources.Nodup

namespace Recorded

variable {size least : Nat} {ledger : Ledger}

theorem empty (size : Nat) : Recorded size 0 .empty := ⟨Nat.le_refl 0, rfl, List.nodup_nil⟩

theorem length_sources (h : ledger.Recorded size least) :
    ledger.cache.sources.length = Cache.held size ledger.misses.length := by
  have hle := Cache.held_le size ledger.misses.length
  rw [h.sources, List.length_drop]
  omega

theorem missKeeps (hsize : 0 < size) : MissKeeps size (Recorded size least) := by
  rintro ledger source h hmiss ⟨t, hparse⟩
  have hle := Cache.held_le size ledger.misses.length
  have hleaving := Cache.leaving_le hsize
  have hpos := Cache.leaving_pos size
  have hlength := h.length_sources
  have henter : ledger.miss size source =
      ⟨ledger.cache.insert size (source, t), ledger.misses ++ [source]⟩ := by
    simp only [miss, Cache.enter, hparse]
  have hsources := Cache.sources_insert size ledger.cache source t
  rw [henter]
  refine ⟨?_, ?_, ?_⟩
  · have := h.least
    simp only [List.length_append]
    omega
  · simp only [List.length_append, List.length_singleton]
    rw [hsources, Cache.held_succ hsize, hlength]
    by_cases hfull : size ≤ Cache.held size ledger.misses.length
    · rw [if_pos hfull, if_pos hfull, h.sources, List.drop_drop,
        ← List.drop_append_of_le_length (by omega)]
      congr 1
      omega
    · rw [if_neg hfull, if_neg hfull, h.sources, ← List.drop_append_of_le_length (by omega)]
      congr 1
      omega
  · have hsub : (ledger.cache.insert size (source, t)).sources.Sublist
        (ledger.cache.sources ++ [source]) := by
      rw [hsources]
      split
      · exact (List.drop_sublist _ _).append_right _
      · exact List.Sublist.refl _
    refine hsub.nodup ?_
    rw [List.nodup_append]
    refine ⟨h.nodup, List.pairwise_singleton _ _, ?_⟩
    rintro text htext _ hsource rfl
    exact hmiss (List.mem_singleton.mp hsource ▸ htext)

end Recorded

/-- The cache is `start` with the templates of the record put in, in its order. -/
structure Fills (size : Nat) (start : Cache) (ledger : Ledger) : Prop where
  cache : ledger.cache = ledger.misses.foldl (Cache.enter size) start
  parsed : ∀ source ∈ ledger.misses, ∃ t, Template.parse source = .ok t

theorem Fills.missKeeps (size : Nat) (start : Cache) : MissKeeps size (Fills size start) := by
  intro ledger source h _ hparse
  refine ⟨?_, List.forall_mem_append.mpr ⟨h.parsed, List.forall_mem_singleton.mpr hparse⟩⟩
  simp only [miss, List.foldl_append, List.foldl_cons, List.foldl_nil, h.cache]

end Ledger

/-- What a caller asks of an engine. -/
inductive Request where
  | template (source : Text)
  | format (source : Text) (argument : Value) (locale : Option Text)
  | formatTemplate (t : Template) (argument : Value) (locale : Option Text)

/-- What a shelf remembers behind a request. -/
def Request.memory {σ : Type} (shelf : Shelf σ) (settings : Settings)
    (classifier : Plural.Classifier) (m : σ) : Request → σ
  | template source => (shelf source m).2
  | format source argument locale =>
    let setting := Engine.setting settings classifier argument locale
    let step := do
      let t ← Rendering.fetch shelf source
      Rendering.render shelf setting setting.limit t
    (step.answer m).2
  | formatTemplate t argument locale =>
    let setting := Engine.setting settings classifier argument locale
    ((Rendering.render shelf setting setting.limit t).answer m).2

section

variable {σ τ : Type} {R : σ → τ → Prop} {shelf : Shelf σ} {shelf' : Shelf τ}

/-- Where two shelves agree, a request keeps their memories related. -/
theorem Request.memory_agree (h : Shelf.Agree R shelf shelf') (settings : Settings)
    (classifier : Plural.Classifier) {m : σ} {n : τ} (hmemory : R m n) (request : Request) :
    R (request.memory shelf settings classifier m)
      (request.memory shelf' settings classifier n) := by
  cases request with
  | template source => exact (h source m n hmemory).2
  | format source argument locale =>
    exact ((Rendering.InStep.fetch h source).bind fun t =>
      Rendering.InStep.render h _ _ t).answer hmemory |>.2
  | formatTemplate t argument locale =>
    exact ((Rendering.InStep.render h _ _ t).answer hmemory).2

end

namespace Engine

/-- The engine behind a request. -/
def after (e : Engine) : Request → Engine
  | .template source => (e.template source).2
  | .format source argument locale => (e.format source argument locale).2
  | .formatTemplate t argument locale => (e.formatTemplate t argument locale).2

/-- The engine behind requests in turn. -/
def afterAll (e : Engine) (requests : List Request) : Engine := requests.foldl after e

/-- The cache of an engine and its record behind requests in turn. -/
def recordAll (settings : Settings) (classifier : Plural.Classifier) (ledger : Ledger)
    (requests : List Request) : Ledger :=
  requests.foldl (Request.memory (Ledger.fetch settings.cacheSize) settings classifier) ledger

theorem after_eq (e : Engine) (request : Request) : e.after request =
    let shelf := Cache.fetch e.settings.cacheSize
    { e with cache := request.memory shelf e.settings e.classifier e.cache } := by
  cases request <;> rfl

theorem afterAll_append (e : Engine) (requests more : List Request) :
    e.afterAll (requests ++ more) = (e.afterAll requests).afterAll more :=
  List.foldl_append

theorem settings_afterAll (e : Engine) (requests : List Request) :
    (e.afterAll requests).settings = e.settings := by
  induction requests generalizing e with
  | nil => rfl
  | cons request requests ih =>
    rw [afterAll, List.foldl_cons]
    refine (ih (e.after request)).trans ?_
    rw [after_eq]

/-- Behind requests in turn the record is that of the cache, and it has kept what every miss
keeps. -/
theorem recordAll_spec {e : Engine} {P : Ledger → Prop}
    (hmiss : Ledger.MissKeeps e.settings.cacheSize P) {ledger : Ledger}
    (hcache : ledger.cache = e.cache) (h : P ledger) (requests : List Request) :
    (recordAll e.settings e.classifier ledger requests).cache = (e.afterAll requests).cache ∧
      P (recordAll e.settings e.classifier ledger requests) := by
  induction requests generalizing e ledger with
  | nil => exact ⟨hcache, h⟩
  | cons request requests ih =>
    obtain ⟨hcache', h'⟩ := request.memory_agree (Ledger.fetch_agree hmiss) e.settings e.classifier
      ⟨hcache, h⟩
    have hafter := ih (e := e.after request) (by rw [after_eq]; exact hmiss)
      (by rw [after_eq]; exact hcache') h'
    rw [after_eq] at hafter
    rw [afterAll, List.foldl_cons, after_eq]
    exact hafter

/-- The texts that requests in turn look up in vain and that can be parsed, in their order. -/
def missed (e : Engine) (requests : List Request) : List Text :=
  (recordAll e.settings e.classifier ⟨e.cache, []⟩ requests).misses

/-- Requests put the templates of the texts that they miss into the cache, and nothing else. -/
theorem cache_afterAll_eq_enter (e : Engine) (requests : List Request) :
    (e.afterAll requests).cache =
        (e.missed requests).foldl (Cache.enter e.settings.cacheSize) e.cache ∧
      ∀ source ∈ e.missed requests, ∃ t, Template.parse source = .ok t := by
  have hempty : Ledger.Fills e.settings.cacheSize e.cache ⟨e.cache, []⟩ :=
    ⟨rfl, fun _ h => nomatch h⟩
  obtain ⟨hcache, hfills⟩ := recordAll_spec
    (Ledger.Fills.missKeeps e.settings.cacheSize e.cache) rfl hempty requests
  exact ⟨hcache.symm.trans hfills.cache, hfills.parsed⟩

/-- A text that cannot be parsed leaves the engine as it is. -/
theorem template_eq_self {e : Engine} {source : Text} {fault : InlinePlural.Malformed}
    (h : Template.parse source = .error fault) : (e.template source).2 = e := by
  have hcache : (Cache.fetch e.settings.cacheSize source e.cache).2 = e.cache :=
    Cache.fetch_eq_self (.inr ⟨fault, h⟩)
  show { e with cache := (Cache.fetch e.settings.cacheSize source e.cache).2 } = e
  rw [hcache]

/-- The cache of an engine behind requests in turn: it holds the last texts that were missed, in
their order, as many as `Cache.held` says, and only a miss that can be parsed changes it. -/
theorem cache_afterAll (settings : Settings) (classifier : Plural.Classifier)
    (requests more : List Request) :
    let size := settings.cacheSize
    let ledger := recordAll settings classifier .empty requests
    let misses := ledger.misses
    let cache := ((create settings classifier).afterAll requests).cache
    let later := ((create settings classifier).afterAll (requests ++ more)).cache
    ledger.cache = cache ∧
      cache.sources = misses.drop (misses.length - Cache.held size misses.length) ∧
      cache.sources.length = Cache.held size misses.length ∧
      cache.sources.Nodup ∧
      cache.sources.length ≤ size ∧
      (cache.sources.length = size → size ≤ misses.length) ∧
      (size ≤ misses.length → size - Cache.leaving size + 1 ≤ later.sources.length) ∧
      ∀ source, source ∈ cache.sources ∨ (∃ fault, Template.parse source = .error fault) →
        (Cache.fetch size source cache).2 = cache := by
  intro size ledger misses cache later
  have hempty : Ledger.empty.cache = (create settings classifier).cache := rfl
  obtain ⟨hbelongs, hrecorded⟩ :
      ledger.cache = cache ∧ ledger.Recorded size 0 :=
    recordAll_spec (Ledger.Recorded.missKeeps settings.cacheSize_pos) hempty
      (Ledger.Recorded.empty size) requests
  have hsources := hrecorded.sources
  have hlength := hrecorded.length_sources
  have hnodup := hrecorded.nodup
  rw [hbelongs] at hsources hlength hnodup
  refine ⟨hbelongs, hsources, hlength, hnodup, ?_, ?_, ?_, fun source => Cache.fetch_eq_self⟩
  · rw [hlength]
    exact Cache.held_le_size settings.cacheSize_pos _
  · intro hfull
    rw [← hfull, hlength]
    exact Cache.held_le size misses.length
  · intro hfull
    -- From here on the record only grows.
    have hmiddle : ledger.Recorded size size :=
      ⟨hfull, hrecorded.sources, hrecorded.nodup⟩
    have hkeeps : Ledger.MissKeeps
        ((create settings classifier).afterAll requests).settings.cacheSize
        (Ledger.Recorded size size) := by
      rw [settings_afterAll]
      exact Ledger.Recorded.missKeeps settings.cacheSize_pos
    obtain ⟨hcache, hlater⟩ := recordAll_spec hkeeps hbelongs hmiddle more
    rw [← afterAll_append] at hcache
    have hcount := hlater.length_sources
    rw [hcache] at hcount
    rw [hcount]
    exact Cache.le_held settings.cacheSize_pos hlater.least

end Engine

end Phrasebook
