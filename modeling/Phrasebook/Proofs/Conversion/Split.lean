import Phrasebook.Proofs.Conversion.Written
import Phrasebook.Proofs.Text.Capture

/-! Conversions as a pattern.  The pattern leaves open how many zeros are flags and how many belong to
the width, and its parts can be read in many ways, but all of them end with the same letter; the way
that is found first has the parts that the reader of conversions takes in one pass. -/

namespace Phrasebook

open Text (lit isDigit Stops)

/-- The names of what is kept of a placeholder. -/
inductive Part where
  | body
  | key
  | rules
  | flags
  | width
  | precision
  | conversion
  deriving DecidableEq

/-- The characters of flags. -/
def Flag.isMark (c : Nat) : Bool := (lit "-+ 0#").contains c

/-- The letters of conversions. -/
def Letter.isMark (c : Nat) : Bool := (lit "diouxXeEfFgGcs").contains c

theorem Flag.isMark_iff {c : Nat} : isMark c ↔ ∃ flag : Flag, flag.character = c := by
  constructor
  · intro h
    have hall : ∀ c ∈ lit "-+ 0#", (ofCharacter? c).isSome := by decide
    obtain ⟨flag, hflag⟩ := Option.isSome_iff_exists.mp (hall c (List.contains_iff_mem.mp h))
    exact ⟨flag, character_of_ofCharacter? hflag⟩
  · rintro ⟨flag, rfl⟩
    cases flag <;> decide

theorem Letter.isMark_iff {c : Nat} : isMark c ↔ ∃ letter : Letter, letter.character = c := by
  constructor
  · intro h
    have hall : ∀ c ∈ lit "diouxXeEfFgGcs", (ofCharacter? c).isSome := by decide
    obtain ⟨letter, hletter⟩ := Option.isSome_iff_exists.mp (hall c (List.contains_iff_mem.mp h))
    exact ⟨letter, character_of_ofCharacter? hletter⟩
  · rintro ⟨letter, rfl⟩
    cases letter <;> decide

theorem Flag.exists_map_character {text : Text} (h : ∀ c ∈ text, isMark c) :
    ∃ flags : List Flag, flags.map character = text := by
  induction text with
  | nil => exact ⟨[], rfl⟩
  | cons c text ih =>
    obtain ⟨hc, htext⟩ := List.forall_mem_cons.mp h
    obtain ⟨flag, rfl⟩ := isMark_iff.mp hc
    obtain ⟨flags, rfl⟩ := ih htext
    exact ⟨flag :: flags, rfl⟩

/-- A cut of the text of a conversion.  Zeros that begin the width may be among the flags. -/
structure Split where
  flags : Text
  width : Text
  precision : Option Text
  letter : Nat

namespace Split

def written (s : Split) : Text :=
  s.flags ++ s.width ++ Conversion.precisionText s.precision ++ [s.letter]

/-- Each part consists of its characters. -/
structure Fits (s : Split) : Prop where
  flags : ∀ c ∈ s.flags, Flag.isMark c
  width : ∀ c ∈ s.width, isDigit c
  precision : ∀ digits ∈ s.precision, ∀ c ∈ digits, isDigit c
  letter : Letter.isMark s.letter

/-- With its zeros moved to the flags, a split is the text of a conversion. -/
theorem Fits.exists_conversion {s : Split} (h : s.Fits) :
    ∃ spec : Conversion, spec.WellFormed ∧ spec.written = s.written := by
  -- the text stays the same, as the zeros that move stand between the flags and the width
  have hwidth := List.takeWhile_append_dropWhile (p := (· == '0'.toNat)) (l := s.width)
  have hzeros : ∀ c ∈ s.width.takeWhile (· == '0'.toNat), Flag.isMark c := by
    intro c hc
    have hzero : c = '0'.toNat := eq_of_beq (List.mem_takeWhile_imp (p := (· == '0'.toNat)) hc)
    rw [hzero]
    decide
  obtain ⟨flags, hflags⟩ := Flag.exists_map_character (List.forall_mem_append.mpr ⟨h.flags, hzeros⟩)
  obtain ⟨letter, hletter⟩ := Letter.isMark_iff.mp h.letter
  refine ⟨⟨flags, s.width.dropWhile (· == '0'.toNat), s.precision, letter⟩, ⟨?_, ?_, h.precision⟩, ?_⟩
  · exact fun c hc => h.width c ((List.dropWhile_suffix _).subset hc)
  · intro hhead
    have hstops := Text.stops_dropWhile (p := (· == '0'.toNat)) s.width _ hhead
    exact absurd hstops (by decide)
  · simp only [Conversion.written, written, hflags, hletter, List.append_assoc]
    rw [← List.append_assoc (s.width.takeWhile _), hwidth]

/-- However its text is cut, the reader of conversions ends at the same place. -/
theorem Fits.exists_read? {s : Split} (h : s.Fits) (rest : Text) :
    ∃ spec, Conversion.read? (s.written ++ rest) = some (spec, rest) := by
  obtain ⟨spec, hspec, hwritten⟩ := h.exists_conversion
  exact ⟨spec, Conversion.read?_eq_some_iff.mpr ⟨hspec, by rw [hwritten]⟩⟩

end Split

namespace Conversion

/-- What is kept of a conversion.  The width and the precision are kept if they are written, the
precision also without digits. -/
def parts (spec : Conversion) : List (Part × Text) :=
  (.flags, spec.flags.map Flag.character) ::
    ((if spec.width = [] then [] else [(.width, spec.width)]) ++
      (spec.precision.elim [] (fun digits => [(.precision, digits)]) ++
        [(.conversion, [spec.letter.character])]))

/-- The way to read a conversion before `rest`. -/
def way (spec : Conversion) (rest : Text) : Way Part := ⟨spec.parts, spec.written, rest⟩

/-- Flags, a width and a precision that may both be left out, and a letter. -/
def capture : Capture Part :=
  .both (.kept .flags (.many Flag.isMark)) <|
  .both (.optional (.kept .width (.oneOrMore isDigit))) <|
  .both (.optional (.both (.plain (.one (· == '.'.toNat))) (.kept .precision (.many isDigit)))) <|
  .kept .conversion (.one Letter.isMark)

/-! ### What the pattern finds -/

theorem first?_flags {spec : Conversion} (h : spec.WellFormed) (rest : Text) :
    (Capture.kept Part.flags (.many Flag.isMark)).first? (spec.written ++ rest) =
      some ⟨[(.flags, spec.flags.map Flag.character)], spec.flags.map Flag.character,
        spec.width ++ (precisionText spec.precision ++ spec.letter.character :: rest)⟩ := by
  have hmarks : ∀ c ∈ spec.flags.map Flag.character, Flag.isMark c := by
    intro c hc
    obtain ⟨flag, -, rfl⟩ := List.mem_map.mp hc
    exact Flag.isMark_iff.mpr ⟨flag, rfl⟩
  have hstops : Stops Flag.isMark
      (spec.width ++ (precisionText spec.precision ++ spec.letter.character :: rest)) := by
    intro c hc
    refine Bool.eq_false_iff.mpr fun hmark => ?_
    obtain ⟨flag, rfl⟩ := Flag.isMark_iff.mp hmark
    have hnone := h.not_flag rest _ hc
    rw [Flag.ofCharacter?_character] at hnone
    cases hnone
  simp only [written, List.append_assoc, List.singleton_append]
  exact Capture.first?_kept (Pattern.first?_many hmarks hstops)

theorem first?_width {width rest : Text} (h : ∀ c ∈ width, isDigit c) (hstops : Stops isDigit rest) :
    (Capture.optional (.kept Part.width (.oneOrMore isDigit))).first? (width ++ rest) =
      some ⟨if width = [] then [] else [(.width, width)], width, rest⟩ := by
  cases width with
  | nil =>
    refine Capture.first?_optional_of_nil (List.map_eq_nil_iff.mpr ?_)
    exact Pattern.first?_eq_none_iff.mp (Pattern.first?_oneOrMore_eq_none hstops)
  | cons c width =>
    obtain ⟨hc, hwidth⟩ := List.forall_mem_cons.mp h
    exact Capture.first?_optional (Capture.first?_kept (Pattern.first?_oneOrMore hc hwidth hstops))

theorem first?_precision {precision : Option Text} (letter : Letter) (rest : Text)
    (h : ∀ digits ∈ precision, ∀ c ∈ digits, isDigit c) :
    (Capture.optional (.both (.plain (.one (· == '.'.toNat)))
        (.kept Part.precision (.many isDigit)))).first?
        (precisionText precision ++ letter.character :: rest) =
      some ⟨precision.elim [] (fun digits => [(.precision, digits)]), precisionText precision,
        letter.character :: rest⟩ := by
  cases precision with
  | none =>
    refine Capture.first?_optional_of_nil (List.eq_nil_iff_forall_not_mem.mpr fun way hway => ?_)
    obtain ⟨first, hfirst, -⟩ := Capture.mem_ways_both hway
    obtain ⟨c, -, htext, hc⟩ := Pattern.mem_ways_one (Capture.mem_ways_plain hfirst).1
    exact letter.ne_point ((List.cons.inj htext).1.trans (eq_of_beq hc))
  | some digits =>
    have hstops : Stops isDigit (letter.character :: rest) :=
      Text.stops_cons_iff.mpr letter.not_digit
    have hpoint : (Pattern.one (· == '.'.toNat)).first?
        ('.'.toNat :: (digits ++ letter.character :: rest)) =
          some (['.'.toNat], digits ++ letter.character :: rest) := Pattern.first?_one (by decide)
    exact Capture.first?_optional (Capture.first?_both (Capture.first?_plain hpoint)
      (Capture.first?_kept (Pattern.first?_many (h digits rfl) hstops)))

/-- The pattern finds a conversion with the parts that it has. -/
theorem first?_capture {spec : Conversion} (h : spec.WellFormed) (rest : Text) :
    capture.first? (spec.written ++ rest) = some (spec.way rest) := by
  have hletter : (Capture.kept Part.conversion (.one Letter.isMark)).first?
      (spec.letter.character :: rest) =
        some ⟨[(.conversion, [spec.letter.character])], [spec.letter.character], rest⟩ :=
    Capture.first?_kept (Pattern.first?_one (Letter.isMark_iff.mpr ⟨spec.letter, rfl⟩))
  have hfirst := Capture.first?_both (first?_flags h rest) <|
    Capture.first?_both (first?_width h.width (stops_precisionText _ _ rest)) <|
    Capture.first?_both (first?_precision spec.letter rest h.precision) hletter
  simpa only [capture, way, written, parts, List.append_assoc, List.singleton_append] using hfirst

/-! ### All ways of the pattern -/

variable {text : Text} {found : Way Part}

theorem digits_of_mem_width
    (h : found ∈ (Capture.optional (.kept Part.width (.oneOrMore isDigit))).ways text) :
    (∀ c ∈ found.matched, isDigit c) ∧ text = found.matched ++ found.rest := by
  rcases Capture.mem_ways_optional h with htaken | rfl
  · exact (Pattern.mem_ways_oneOrMore (Capture.mem_ways_kept htaken).1).2
  · exact ⟨List.forall_mem_nil _, rfl⟩

theorem digits_of_mem_precision
    (h : found ∈ (Capture.optional (.both (.plain (.one (· == '.'.toNat)))
      (.kept Part.precision (.many isDigit)))).ways text) :
    ∃ precision, (∀ digits ∈ precision, ∀ c ∈ digits, isDigit c) ∧
      found.matched = precisionText precision ∧ text = found.matched ++ found.rest := by
  rcases Capture.mem_ways_optional h with htaken | rfl
  · obtain ⟨point, hpoint, digits, hdigits, rfl⟩ := Capture.mem_ways_both htaken
    obtain ⟨c, hmatched, rfl, hc⟩ := Pattern.mem_ways_one (Capture.mem_ways_plain hpoint).1
    obtain ⟨hrest, hall⟩ := Pattern.mem_ways_many (Capture.mem_ways_kept hdigits).1
    refine ⟨some digits.matched, ?_, ?_, ?_⟩
    · rintro _ ⟨⟩
      exact hall
    · rw [hmatched, eq_of_beq hc]
      rfl
    · rw [hmatched, hrest]
      rfl
  · refine ⟨none, ?_, rfl, rfl⟩
    intro digits hdigits
    cases hdigits

theorem split_of_mem_ways (h : found ∈ capture.ways text) :
    ∃ s : Split, s.Fits ∧ found.matched = s.written ∧ text = s.written ++ found.rest := by
  obtain ⟨flags, hflags, behindFlags, hbehindFlags, rfl⟩ := Capture.mem_ways_both h
  obtain ⟨width, hwidth, behindWidth, hbehindWidth, rfl⟩ := Capture.mem_ways_both hbehindFlags
  obtain ⟨precision, hprecision, letter, hletter, rfl⟩ := Capture.mem_ways_both hbehindWidth
  obtain ⟨htext, hmarks⟩ := Pattern.mem_ways_many (Capture.mem_ways_kept hflags).1
  obtain ⟨hdigits, hwidthText⟩ := digits_of_mem_width hwidth
  obtain ⟨digits, hall, hmatched, hprecisionText⟩ := digits_of_mem_precision hprecision
  obtain ⟨c, hc, hletterText, hmark⟩ := Pattern.mem_ways_one (Capture.mem_ways_kept hletter).1
  refine ⟨⟨flags.matched, width.matched, digits, c⟩, ⟨hmarks, hdigits, hall, hmark⟩, ?_, ?_⟩
  · simp only [Split.written, hc, hmatched, List.append_assoc]
  · rw [htext, hwidthText, hprecisionText, hletterText, hmatched]
    simp only [Split.written, List.append_assoc, List.singleton_append]

/-- All ways of the pattern end at the same place, where the reader of conversions ends. -/
theorem read?_of_mem_ways (h : found ∈ capture.ways text) :
    ∃ spec, read? text = some (spec, found.rest) ∧ found.matched = spec.written := by
  obtain ⟨s, hs, hmatched, rfl⟩ := split_of_mem_ways h
  obtain ⟨spec, hread⟩ := hs.exists_read? found.rest
  have hwritten := written_of_read? hread
  exact ⟨spec, hread, hmatched.trans (List.append_cancel_right hwritten)⟩

theorem ways_capture_eq_nil (h : read? text = none) : capture.ways text = [] := by
  refine List.eq_nil_iff_forall_not_mem.mpr fun found hfound => ?_
  obtain ⟨spec, hread, -⟩ := read?_of_mem_ways hfound
  rw [h] at hread
  cases hread

/-- What the pattern finds after going back to its choices is what one pass takes. -/
theorem first?_capture_eq (text : Text) :
    capture.first? text = (read? text).map fun (spec, rest) => spec.way rest := by
  cases hread : read? text with
  | none => rw [Capture.first?, ways_capture_eq_nil hread, List.head?_nil, Option.map_none]
  | some found =>
    obtain ⟨hspec, rfl⟩ := read?_eq_some_iff.mp hread
    exact first?_capture hspec found.2

end Conversion

end Phrasebook
