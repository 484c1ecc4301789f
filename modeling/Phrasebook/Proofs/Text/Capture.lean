import Phrasebook.Proofs.Text.Pattern

/-! Patterns that keep parts of what they read under names.  They are read like patterns, in the same
order of ways; a part that is not read is not kept, which is not the same as an empty part. -/

namespace Phrasebook

/-- A pattern with parts that are kept. -/
inductive Capture (α : Type) where
  /-- A pattern of which nothing is kept. -/
  | plain (pattern : Pattern)
  /-- A pattern that is kept under a name. -/
  | kept (name : α) (pattern : Pattern)
  /-- What may be left out, with all that it keeps. -/
  | optional (part : Capture α)
  /-- A pattern with another behind it. -/
  | both (front back : Capture α)

/-- A way to read the start of a text: the parts that are kept, what is matched, and what follows. -/
structure Way (α : Type) where
  parts : List (α × Text)
  matched : Text
  rest : Text
  deriving DecidableEq

namespace Capture

variable {α : Type} {name : α} {pattern : Pattern} {part front back : Capture α}
  {text matched rest : Text} {way : Way α}

/-- The ways to begin a text, in the order in which they are tried. -/
def ways : Capture α → Text → List (Way α)
  | plain pattern, text => (pattern.ways text).map fun (matched, rest) => ⟨[], matched, rest⟩
  | kept name pattern, text =>
    (pattern.ways text).map fun (matched, rest) => ⟨[(name, matched)], matched, rest⟩
  | optional part, text => part.ways text ++ [⟨[], [], text⟩]
  | both front back, text => (front.ways text).flatMap fun first =>
      (back.ways first.rest).map fun second =>
        ⟨first.parts ++ second.parts, first.matched ++ second.matched, second.rest⟩

/-- The way that is found. -/
def first? (part : Capture α) (text : Text) : Option (Way α) := (part.ways text).head?

theorem ways_optional (part : Capture α) (text : Text) :
    (optional part).ways text = part.ways text ++ [⟨[], [], text⟩] := rfl

theorem ways_both (front back : Capture α) (text : Text) : (both front back).ways text =
    (front.ways text).flatMap fun first => (back.ways first.rest).map fun second =>
      ⟨first.parts ++ second.parts, first.matched ++ second.matched, second.rest⟩ := rfl

theorem first?_eq_some_iff :
    part.first? text = some way ↔ ∃ others, part.ways text = way :: others :=
  List.head?_eq_some_iff

/-! ### What is found -/

theorem first?_plain (h : pattern.first? text = some (matched, rest)) :
    (plain pattern : Capture α).first? text = some ⟨[], matched, rest⟩ := by
  obtain ⟨others, hways⟩ := Pattern.first?_eq_some_iff.mp h
  exact first?_eq_some_iff.mpr ⟨_, congrArg (List.map _) hways⟩

theorem first?_kept (h : pattern.first? text = some (matched, rest)) :
    (kept name pattern).first? text = some ⟨[(name, matched)], matched, rest⟩ := by
  obtain ⟨others, hways⟩ := Pattern.first?_eq_some_iff.mp h
  exact first?_eq_some_iff.mpr ⟨_, congrArg (List.map _) hways⟩

theorem first?_optional (h : part.first? text = some way) :
    (optional part).first? text = some way := by
  obtain ⟨others, hways⟩ := first?_eq_some_iff.mp h
  refine first?_eq_some_iff.mpr ?_
  rw [ways_optional, hways]
  exact ⟨_, rfl⟩

theorem first?_optional_of_nil (h : part.ways text = []) :
    (optional part).first? text = some ⟨[], [], text⟩ :=
  first?_eq_some_iff.mpr ⟨[], by rw [ways_optional, h, List.nil_append]⟩

/-- If the second part fits behind what the first finds, no other way is tried. -/
theorem first?_both {first second : Way α} (hfront : front.first? text = some first)
    (hback : back.first? first.rest = some second) : (both front back).first? text =
      some ⟨first.parts ++ second.parts, first.matched ++ second.matched, second.rest⟩ := by
  obtain ⟨others, hways⟩ := first?_eq_some_iff.mp hfront
  obtain ⟨others', hways'⟩ := first?_eq_some_iff.mp hback
  refine first?_eq_some_iff.mpr ?_
  rw [ways_both, hways, List.flatMap_cons, hways']
  exact ⟨_, rfl⟩

/-! ### What is tried -/

theorem mem_ways_plain (h : way ∈ (plain pattern : Capture α).ways text) :
    (way.matched, way.rest) ∈ pattern.ways text ∧ way.parts = [] := by
  obtain ⟨found, hfound, rfl⟩ := List.mem_map.mp h
  exact ⟨hfound, rfl⟩

theorem mem_ways_kept (h : way ∈ (kept name pattern).ways text) :
    (way.matched, way.rest) ∈ pattern.ways text ∧ way.parts = [(name, way.matched)] := by
  obtain ⟨found, hfound, rfl⟩ := List.mem_map.mp h
  exact ⟨hfound, rfl⟩

theorem mem_ways_optional (h : way ∈ (optional part).ways text) :
    way ∈ part.ways text ∨ way = ⟨[], [], text⟩ := by
  rw [ways_optional] at h
  exact (List.mem_append.mp h).imp_right List.mem_singleton.mp

theorem mem_ways_both (h : way ∈ (both front back).ways text) :
    ∃ first ∈ front.ways text, ∃ second ∈ back.ways first.rest,
      way = ⟨first.parts ++ second.parts, first.matched ++ second.matched, second.rest⟩ := by
  rw [ways_both] at h
  obtain ⟨first, hfirst, hmore⟩ := List.mem_flatMap.mp h
  obtain ⟨second, hsecond, rfl⟩ := List.mem_map.mp hmore
  exact ⟨first, hfirst, second, hsecond, rfl⟩

end Capture

end Phrasebook
