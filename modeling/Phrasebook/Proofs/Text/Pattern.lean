import Phrasebook.Proofs.Text.Run

/-! Patterns of characters, and the ways in which a matcher that goes back to its last choice reads
them: what may be repeated is taken as often as it can be, what may be left out is taken if it can
be, and less is taken only if the rest of the pattern does not fit otherwise. -/

namespace Phrasebook

open Text (Stops)

inductive Pattern where
  /-- One character of a class. -/
  | one (p : Nat → Bool)
  /-- Any number of characters of a class. -/
  | many (p : Nat → Bool)
  /-- A pattern or nothing. -/
  | optional (pattern : Pattern)
  /-- A pattern with another behind it. -/
  | both (front back : Pattern)

namespace Pattern

/-- One character of a class or more. -/
def oneOrMore (p : Nat → Bool) : Pattern := both (one p) (many p)

/-- The ways to begin a text with characters of a class, with what follows them, the longest run
first. -/
def runs (p : Nat → Bool) : Text → List (Text × Text)
  | [] => [([], [])]
  | c :: rest =>
    if p c then (runs p rest).map (fun (run, rest) => (c :: run, rest)) ++ [([], c :: rest)]
    else [([], c :: rest)]

/-- The ways to begin a text with a pattern, with what follows, in the order in which they are
tried. -/
def ways : Pattern → Text → List (Text × Text)
  | one _, [] => []
  | one p, c :: rest => if p c then [([c], rest)] else []
  | many p, text => runs p text
  | optional pattern, text => pattern.ways text ++ [([], text)]
  | both front back, text => (front.ways text).flatMap fun (matched, rest) =>
      (back.ways rest).map fun (more, rest) => (matched ++ more, rest)

/-- The way that is found. -/
def first? (pattern : Pattern) (text : Text) : Option (Text × Text) := (pattern.ways text).head?

variable {p : Nat → Bool} {pattern front back : Pattern} {text matched more rest behind : Text}

/-! ### One step of the matcher -/

theorem runs_cons (p : Nat → Bool) (c : Nat) (rest : Text) : runs p (c :: rest) =
    if p c then (runs p rest).map (fun (run, rest) => (c :: run, rest)) ++ [([], c :: rest)]
    else [([], c :: rest)] := rfl

theorem ways_one_cons (p : Nat → Bool) (c : Nat) (rest : Text) :
    (one p).ways (c :: rest) = if p c then [([c], rest)] else [] := rfl

theorem ways_optional (pattern : Pattern) (text : Text) :
    (optional pattern).ways text = pattern.ways text ++ [([], text)] := rfl

theorem ways_both (front back : Pattern) (text : Text) : (both front back).ways text =
    (front.ways text).flatMap fun (matched, rest) =>
      (back.ways rest).map fun (more, rest) => (matched ++ more, rest) := rfl

theorem first?_eq_some_iff : pattern.first? text = some (matched, rest) ↔
    ∃ others, pattern.ways text = (matched, rest) :: others := List.head?_eq_some_iff

theorem first?_eq_none_iff : pattern.first? text = none ↔ pattern.ways text = [] :=
  List.head?_eq_none_iff

/-! ### What is found -/

theorem first?_one {c : Nat} (h : p c) : (one p).first? (c :: rest) = some ([c], rest) :=
  first?_eq_some_iff.mpr ⟨[], by rw [ways_one_cons, if_pos h]⟩

theorem first?_one_eq_none (h : Stops p text) : (one p).first? text = none := by
  cases text with
  | nil => rfl
  | cons c rest =>
    rw [Text.stops_cons_iff] at h
    rw [first?_eq_none_iff, ways_one_cons, if_neg (by simp [h])]

/-- Of characters of a class the longest run is found. -/
theorem first?_many (hmatched : ∀ c ∈ matched, p c) (hrest : Stops p rest) :
    (many p).first? (matched ++ rest) = some (matched, rest) := by
  refine first?_eq_some_iff.mpr ?_
  change ∃ others, runs p (matched ++ rest) = (matched, rest) :: others
  induction matched with
  | nil =>
    cases rest with
    | nil => exact ⟨[], rfl⟩
    | cons c rest =>
      rw [Text.stops_cons_iff] at hrest
      exact ⟨[], by rw [List.nil_append, runs_cons, if_neg (by simp [hrest])]⟩
  | cons c matched ih =>
    obtain ⟨hc, hmatched⟩ := List.forall_mem_cons.mp hmatched
    obtain ⟨others, hruns⟩ := ih hmatched
    rw [List.cons_append, runs_cons, if_pos hc, hruns]
    exact ⟨_, rfl⟩

theorem first?_optional (h : pattern.first? text = some (matched, rest)) :
    (optional pattern).first? text = some (matched, rest) := by
  obtain ⟨others, hways⟩ := first?_eq_some_iff.mp h
  refine first?_eq_some_iff.mpr ?_
  rw [ways_optional, hways]
  exact ⟨_, rfl⟩

theorem first?_optional_of_none (h : pattern.first? text = none) :
    (optional pattern).first? text = some ([], text) := by
  refine first?_eq_some_iff.mpr ⟨[], ?_⟩
  rw [ways_optional, first?_eq_none_iff.mp h, List.nil_append]

/-- If the second part fits behind what the first finds, no other way is tried. -/
theorem first?_both (hfront : front.first? text = some (matched, rest))
    (hback : back.first? rest = some (more, behind)) :
    (both front back).first? text = some (matched ++ more, behind) := by
  obtain ⟨others, hways⟩ := first?_eq_some_iff.mp hfront
  obtain ⟨others', hways'⟩ := first?_eq_some_iff.mp hback
  refine first?_eq_some_iff.mpr ?_
  rw [ways_both, hways, List.flatMap_cons]
  dsimp only
  rw [hways']
  exact ⟨_, rfl⟩

theorem first?_oneOrMore {c : Nat} (hc : p c) (hmatched : ∀ c ∈ matched, p c) (hrest : Stops p rest) :
    (oneOrMore p).first? (c :: matched ++ rest) = some (c :: matched, rest) :=
  first?_both (first?_one hc) (first?_many hmatched hrest)

/-! ### What is tried -/

theorem mem_ways_one (h : (matched, rest) ∈ (one p).ways text) :
    ∃ c, matched = [c] ∧ text = c :: rest ∧ p c := by
  cases text with
  | nil => cases h
  | cons c text =>
    rw [ways_one_cons] at h
    by_cases hc : p c
    · rw [if_pos hc] at h
      cases List.mem_singleton.mp h
      exact ⟨c, rfl, rfl, hc⟩
    · rw [if_neg hc] at h
      cases h

theorem mem_ways_many (h : (matched, rest) ∈ (many p).ways text) :
    text = matched ++ rest ∧ ∀ c ∈ matched, p c := by
  change (matched, rest) ∈ runs p text at h
  induction text generalizing matched with
  | nil =>
    cases List.mem_singleton.mp h
    exact ⟨rfl, List.forall_mem_nil _⟩
  | cons c text ih =>
    have hempty (h : (matched, rest) ∈ [(([] : Text), c :: text)]) :
        c :: text = matched ++ rest ∧ ∀ c ∈ matched, p c := by
      cases List.mem_singleton.mp h
      exact ⟨rfl, List.forall_mem_nil _⟩
    rw [runs_cons] at h
    by_cases hc : p c
    · rw [if_pos hc] at h
      rcases List.mem_append.mp h with hlonger | hshorter
      · obtain ⟨⟨run, rest'⟩, hrun, heq⟩ := List.mem_map.mp hlonger
        cases heq
        obtain ⟨htext, hall⟩ := ih hrun
        exact ⟨congrArg (c :: ·) htext, List.forall_mem_cons.mpr ⟨hc, hall⟩⟩
      · exact hempty hshorter
    · rw [if_neg hc] at h
      exact hempty h

theorem mem_ways_optional (h : (matched, rest) ∈ (optional pattern).ways text) :
    (matched, rest) ∈ pattern.ways text ∨ matched = [] ∧ rest = text := by
  rw [ways_optional] at h
  rcases List.mem_append.mp h with htaken | hleft
  · exact .inl htaken
  · cases List.mem_singleton.mp hleft
    exact .inr ⟨rfl, rfl⟩

theorem mem_ways_both (h : (matched, behind) ∈ (both front back).ways text) :
    ∃ first rest second, (first, rest) ∈ front.ways text ∧ (second, behind) ∈ back.ways rest ∧
      matched = first ++ second := by
  rw [ways_both] at h
  obtain ⟨⟨first, rest⟩, hfirst, hmore⟩ := List.mem_flatMap.mp h
  obtain ⟨⟨second, behind'⟩, hsecond, heq⟩ := List.mem_map.mp hmore
  cases heq
  exact ⟨first, rest, second, hfirst, hsecond, rfl⟩

theorem mem_ways_oneOrMore (h : (matched, rest) ∈ (oneOrMore p).ways text) :
    matched ≠ [] ∧ (∀ c ∈ matched, p c) ∧ text = matched ++ rest := by
  obtain ⟨first, behind, run, hfirst, hrun, rfl⟩ := mem_ways_both h
  obtain ⟨c, rfl, rfl, hc⟩ := mem_ways_one hfirst
  obtain ⟨rfl, hall⟩ := mem_ways_many hrun
  exact ⟨List.cons_ne_nil c run, List.forall_mem_cons.mpr ⟨hc, hall⟩, rfl⟩

/-- If the second part fits behind no way of the first, nothing is found. -/
theorem first?_both_eq_none
    (h : ∀ matched rest, (matched, rest) ∈ front.ways text → back.first? rest = none) :
    (both front back).first? text = none := by
  rw [first?_eq_none_iff, ways_both, List.flatMap_eq_nil_iff]
  rintro ⟨matched, rest⟩ hmem
  exact List.map_eq_nil_iff.mpr (first?_eq_none_iff.mp (h matched rest hmem))

theorem first?_oneOrMore_eq_none (h : Stops p text) : (oneOrMore p).first? text = none := by
  refine first?_both_eq_none fun matched rest hmem => ?_
  obtain ⟨c, -, rfl, hc⟩ := mem_ways_one hmem
  rw [Text.stops_cons_iff, hc] at h
  cases h

end Pattern

end Phrasebook
