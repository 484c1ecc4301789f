import Phrasebook.Locale.Known
import Phrasebook.Phrase
import Phrasebook.Proofs.Locale.Find
import Phrasebook.Proofs.Number.Nearest
import Phrasebook.Proofs.Number.Numeral
import Phrasebook.Proofs.Text.Pattern

/-! The number at the start of a text.  A text that starts with a number is cut in one way only into
white space, a sign, the longest run of digits and group marks, and the digits behind a decimal mark;
the pattern of the locale finds this cut, what is left without the group marks is always a numeral,
and it is rounded to the nearest binary number.  All other texts have the number zero. -/

namespace Phrasebook

open Scaled (value)
open Text (lit isDigit isWhitespace digitValue? pointed signs replaced Stops)

/-! ### The parts of a text -/

/-- Digits and group marks, of which the whole part of a number consists. -/
def Locale.inWhole (locale : Locale) (c : Nat) : Bool := isDigit c || c == locale.group

/-- The parts of a text that starts with a number.  `first` and `run` are the digits and group marks
of the whole part. -/
structure Leading where
  blanks : Text
  sign : Text
  first : Nat
  run : Text
  fraction : Text
  rest : Text

namespace Leading

/-- The fraction behind its mark, which is missing without it. -/
def marked (locale : Locale) (n : Leading) : Text :=
  if n.fraction = [] then [] else locale.decimal :: n.fraction

/-- What stands behind the sign. -/
def unsigned (locale : Locale) (n : Leading) : Text :=
  n.first :: (n.run ++ (n.marked locale ++ n.rest))

def text (locale : Locale) (n : Leading) : Text := n.blanks ++ (n.sign ++ n.unsigned locale)

/-- The parts are those of a number: white space, a sign that may be missing, digits and group marks
that start with a digit, and digits behind a decimal mark.  Each run is the longest. -/
structure Fits (locale : Locale) (n : Leading) : Prop where
  blanks : ∀ c ∈ n.blanks, isWhitespace c
  sign : n.sign ∈ signs
  first : isDigit n.first
  run : ∀ c ∈ n.run, locale.inWhole c
  fraction : ∀ c ∈ n.fraction, isDigit c
  run_longest : Stops locale.inWhole (n.marked locale ++ n.rest)
  fraction_longest : n.fraction ≠ [] → Stops isDigit n.rest
  no_fraction : n.fraction = [] → ∀ behind, n.rest = locale.decimal :: behind → Stops isDigit behind

/-- The digits of the number, without the marks. -/
def digits (n : Leading) : List Nat := (n.first :: n.run ++ n.fraction).filterMap digitValue?

def negative (n : Leading) : Bool := n.sign == lit "-"

/-- The magnitude that the digits write. -/
def magnitude (n : Leading) : ℚ := value 10 (Digits.toNat 10 n.digits) (-n.fraction.length)

end Leading

/-- Behind white space the text goes on with a digit, or with a sign and a digit. -/
def Text.StartsNumber (text : Text) : Prop :=
  ∃ blanks sign c rest, text = blanks ++ (sign ++ c :: rest) ∧ (∀ b ∈ blanks, isWhitespace b) ∧
    sign ∈ signs ∧ isDigit c

namespace Text

theorem not_sign_of_isDigit {c : Nat} (h : isDigit c) : c ∉ lit "+-" := by
  have hsigns : ∀ c ∈ lit "+-", isDigit c = false := by decide
  exact fun hmem => absurd h (by simp [hsigns c hmem])

theorem ne_of_isDigit {mark c : Nat} (hmark : isDigit mark = false) (hc : isDigit c) : c ≠ mark := by
  rintro rfl
  rw [hmark] at hc
  cases hc

/-- A mark that is no sign stands in none. -/
theorem ne_of_mem_sign {sign : Text} (hsign : sign ∈ signs) {mark : Nat} (hmark : mark ∉ lit "+-") :
    ∀ c ∈ sign, c ≠ mark := by
  have hsigns : ∀ sign ∈ signs, ∀ c ∈ sign, c ∈ lit "+-" := by decide
  rintro c hc rfl
  exact hmark (hsigns sign hsign c hc)

/-- Neither signs nor digits are white space. -/
theorem stops_isWhitespace {sign : Text} (hsign : sign ∈ signs) {c : Nat} (hc : isDigit c)
    (rest : Text) : Stops isWhitespace (sign ++ c :: rest) := by
  rcases mem_signs_iff.mp hsign with rfl | rfl | rfl
  · exact stops_cons_iff.mpr (isWhitespace_of_isDigit hc)
  · exact stops_cons_iff.mpr (by decide)
  · exact stops_cons_iff.mpr (by decide)

theorem startsNumber_iff {text : Text} : text.StartsNumber ↔
    (Scientific.splitSign (text.dropWhile isWhitespace)).2.head?.any isDigit := by
  constructor
  · rintro ⟨blanks, sign, c, rest, rfl, hblanks, hsign, hc⟩
    obtain ⟨-, hdrop⟩ := takeWhile_dropWhile_eq_iff.mpr
      ⟨hblanks, stops_isWhitespace hsign hc rest, rfl⟩
    rw [hdrop, Scientific.splitSign_append hsign (not_sign_of_isDigit hc)]
    exact hc
  · intro hdigit
    have htext := List.takeWhile_append_dropWhile (p := isWhitespace) (l := text)
    obtain ⟨sign, hsign, hcore⟩ := Scientific.exists_sign (text.dropWhile isWhitespace)
    obtain ⟨c, hhead, hc⟩ := (Option.any_eq_true _ _).mp hdigit
    obtain ⟨rest, hrest⟩ := List.head?_eq_some_iff.mp hhead
    exact ⟨text.takeWhile isWhitespace, sign, c, rest, by rw [← hrest, ← hcore, htext],
      fun _ hb => List.mem_takeWhile_imp hb, hsign, hc⟩

instance : DecidablePred StartsNumber := fun _ => decidable_of_iff _ startsNumber_iff.symm

end Text

namespace Locale

variable {locale : Locale} {text : Text} {n : Leading}

theorem stops_group_of_decimal (hlegible : locale.Legible) (rest : Text) :
    Stops locale.inWhole (locale.decimal :: rest) := by
  refine Text.stops_cons_iff.mpr ?_
  rw [inWhole, hlegible.decimal_not_digit, Bool.false_or, beq_eq_false_iff_ne]
  exact hlegible.group_ne_decimal.symm

/-- A text that starts with a number has the parts of one. -/
theorem exists_fits (hlegible : locale.Legible) (h : text.StartsNumber) :
    ∃ n : Leading, n.Fits locale ∧ n.text locale = text := by
  obtain ⟨blanks, sign, first, tail, rfl, hblanks, hsign, hfirst⟩ := h
  have htail := List.takeWhile_append_dropWhile (p := locale.inWhole) (l := tail)
  have hrun : ∀ c ∈ tail.takeWhile locale.inWhole, locale.inWhole c :=
    fun _ hc => List.mem_takeWhile_imp hc
  have hlongest : Stops locale.inWhole (tail.dropWhile locale.inWhole) :=
    Text.stops_dropWhile tail
  generalize tail.takeWhile locale.inWhole = run at htail hrun
  generalize tail.dropWhile locale.inWhole = rest at htail hlongest
  by_cases hmark : ∃ d behind, rest = locale.decimal :: d :: behind ∧ isDigit d
  · obtain ⟨d, behind, rfl, hd⟩ := hmark
    have hbehind := List.takeWhile_append_dropWhile (p := isDigit) (l := d :: behind)
    have hne : (d :: behind).takeWhile isDigit ≠ [] := by simp [hd]
    refine ⟨⟨blanks, sign, first, run, (d :: behind).takeWhile isDigit,
      (d :: behind).dropWhile isDigit⟩, ⟨hblanks, hsign, hfirst, hrun,
      fun c hc => List.mem_takeWhile_imp hc, ?_, fun _ => Text.stops_dropWhile _,
      fun hnil => absurd hnil hne⟩, ?_⟩
    · rw [Leading.marked, if_neg hne]
      exact stops_group_of_decimal hlegible _
    · simp only [Leading.text, Leading.unsigned, Leading.marked, if_neg hne, List.cons_append,
        hbehind, htail]
  · refine ⟨⟨blanks, sign, first, run, [], rest⟩, ⟨hblanks, hsign, hfirst, hrun,
      List.forall_mem_nil _, hlongest, fun hne => absurd rfl hne, fun _ behind hrest => ?_⟩, ?_⟩
    · cases behind with
      | nil => exact Text.stops_nil
      | cons d behind =>
        refine Text.stops_cons_iff.mpr (Bool.eq_false_iff.mpr fun hd => ?_)
        exact hmark ⟨d, behind, hrest, hd⟩
    · simp only [Leading.text, Leading.unsigned, Leading.marked, if_true, List.nil_append, htail]

/-! ### The number -/

theorem marked_of_nil (locale : Locale) (h : n.fraction = []) : n.marked locale = [] := if_pos h

theorem marked_of_ne_nil (locale : Locale) (h : n.fraction ≠ []) :
    n.marked locale = locale.decimal :: n.fraction := if_neg h

theorem fractionRun_of_fits (h : n.Fits locale) :
    locale.fractionRun (n.marked locale ++ n.rest) = n.fraction := by
  by_cases hnil : n.fraction = []
  · rw [marked_of_nil locale hnil, hnil, List.nil_append]
    have hstops := h.no_fraction hnil
    generalize n.rest = rest at hstops
    cases rest with
    | nil => rfl
    | cons c behind =>
      by_cases hmark : c = locale.decimal
      · subst hmark
        rw [fractionRun, if_pos rfl]
        exact (Text.takeWhile_dropWhile_eq_iff.mpr
          ⟨List.forall_mem_nil _, hstops behind rfl, rfl⟩).1
      · rw [fractionRun, if_neg hmark]
  · rw [marked_of_ne_nil locale hnil, List.cons_append, fractionRun, if_pos rfl]
    exact (Text.takeWhile_dropWhile_eq_iff.mpr
      ⟨h.fraction, h.fraction_longest hnil, rfl⟩).1

theorem dropWhile_of_fits (h : n.Fits locale) :
    (n.text locale).takeWhile isWhitespace = n.blanks ∧
      (n.text locale).dropWhile isWhitespace = n.sign ++ n.unsigned locale :=
  Text.takeWhile_dropWhile_eq_iff.mpr
    ⟨h.blanks, Text.stops_isWhitespace h.sign h.first _, rfl⟩

theorem splitSign_of_fits (h : n.Fits locale) :
    Scientific.splitSign (n.sign ++ n.unsigned locale) = (n.negative, n.unsigned locale) :=
  Scientific.splitSign_append h.sign (Text.not_sign_of_isDigit h.first) _

theorem wholeRun_of_fits (h : n.Fits locale) :
    locale.wholeRun (n.unsigned locale) = n.first :: n.run ∧
      (n.unsigned locale).dropWhile locale.inWhole = n.marked locale ++ n.rest := by
  have hfirst : locale.inWhole n.first := by rw [inWhole, h.first, Bool.true_or]
  exact Text.takeWhile_dropWhile_eq_iff.mpr
    ⟨List.forall_mem_cons.mpr ⟨hfirst, h.run⟩, h.run_longest, rfl⟩

/-- The number that is found is that of the parts. -/
theorem leadingNumber_of_fits (h : n.Fits locale) : locale.leadingNumber (n.text locale) =
    .ofDecimal n.negative (Digits.toNat 10 n.digits) (-n.fraction.length) := by
  have hdrop : (n.unsigned locale).drop (n.first :: n.run).length = n.marked locale ++ n.rest :=
    List.drop_left
  have hnumber : locale.unsignedNumber? n.negative (n.unsigned locale) =
      some (.ofDecimal n.negative (Digits.toNat 10 n.digits) (-n.fraction.length)) := by
    rw [unsignedNumber?]
    simp only [(wholeRun_of_fits h).1, hdrop, fractionRun_of_fits h]
    exact if_pos h.first
  rw [leadingNumber, (dropWhile_of_fits h).2]
  simp only [splitSign_of_fits h, hnumber, Option.getD_some]

/-- A text has the parts of a number in one way only. -/
theorem eq_of_fits {m : Leading} (h : n.Fits locale) (h' : m.Fits locale)
    (heq : n.text locale = m.text locale) : n = m := by
  obtain ⟨hblanks, hsigned⟩ := dropWhile_of_fits h
  obtain ⟨hblanks', hsigned'⟩ := dropWhile_of_fits h'
  rw [heq] at hblanks hsigned
  have hblanksEq := hblanks.symm.trans hblanks'
  have hsignedEq := hsigned.symm.trans hsigned'
  have hunsignedEq : n.unsigned locale = m.unsigned locale := by
    have hsplit := splitSign_of_fits h
    rw [hsignedEq, splitSign_of_fits h'] at hsplit
    exact (Prod.mk.inj hsplit).2.symm
  have hsignEq : n.sign = m.sign := by
    rw [hunsignedEq] at hsignedEq
    exact List.append_cancel_right hsignedEq
  obtain ⟨hrun, hbehind⟩ := wholeRun_of_fits h
  obtain ⟨hrun', hbehind'⟩ := wholeRun_of_fits h'
  rw [hunsignedEq] at hrun hbehind
  obtain ⟨hfirstEq, hrunEq⟩ := List.cons.inj (hrun.symm.trans hrun')
  have hbehindEq := hbehind.symm.trans hbehind'
  have hfractionEq : n.fraction = m.fraction := by
    rw [← fractionRun_of_fits h, hbehindEq, fractionRun_of_fits h']
  have hmarkedEq : n.marked locale = m.marked locale := by
    rw [Leading.marked, Leading.marked, hfractionEq]
  have hrestEq : n.rest = m.rest := by
    rw [hmarkedEq] at hbehindEq
    exact List.append_cancel_left hbehindEq
  cases n
  cases m
  simp only [Leading.mk.injEq]
  exact ⟨hblanksEq, hsignEq, hfirstEq, hrunEq, hfractionEq, hrestEq⟩

/-- A text that does not start with a number has the number zero. -/
theorem leadingNumber_of_not_startsNumber (h : ¬text.StartsNumber) :
    locale.leadingNumber text = .finite false 0 Binary64.leastExponent := by
  have hnone (negative : Bool) : locale.unsignedNumber? negative
      (Scientific.splitSign (text.dropWhile isWhitespace)).2 = none :=
    if_neg fun hdigit => h (Text.startsNumber_iff.mpr hdigit)
  rw [leadingNumber]
  simp only [hnone]
  rfl

/-! ### The pattern -/

/-- An optional sign, a digit, digits and group marks, and optionally a decimal mark with digits
behind it. -/
def numeral (locale : Locale) : Pattern :=
  .both (.optional (.one fun c => (lit "+-").contains c)) (.both (.one isDigit)
    (.both (.many locale.inWhole)
      (.optional (.both (.one (· == locale.decimal)) (.oneOrMore isDigit)))))

/-- The numeral that is found behind white space at the start of a text. -/
def matched? (locale : Locale) (text : Text) : Option Text :=
  ((Pattern.many isWhitespace).ways text).findSome? fun (_, rest) =>
    (locale.numeral.first? rest).map Prod.fst

/-- The number that is read from the numeral without its group marks and with a point for its decimal
mark, if it can be read; zero without a numeral. -/
def matchedNumber? (locale : Locale) (text : Text) : Option Binary64 :=
  match locale.matched? text with
  | none => some (.finite false 0 Binary64.leastExponent)
  | some number => Binary64.ofText? (Scientific.plain
      (replaced locale.decimal '.'.toNat (number.filter (· != locale.group))))

theorem first?_sign {sign : Text} (hsign : sign ∈ signs) {c : Nat} (hc : isDigit c) (rest : Text) :
    (Pattern.optional (.one fun c => (lit "+-").contains c)).first? (sign ++ c :: rest) =
      some (sign, c :: rest) := by
  have hdigit : (lit "+-").contains c = false := by
    rw [Bool.eq_false_iff]
    exact fun hmem => Text.not_sign_of_isDigit hc (List.contains_iff_mem.mp hmem)
  rcases Text.mem_signs_iff.mp hsign with rfl | rfl | rfl
  · exact Pattern.first?_optional_of_none
      (Pattern.first?_one_eq_none (Text.stops_cons_iff.mpr hdigit))
  · exact Pattern.first?_optional (Pattern.first?_one (by decide))
  · exact Pattern.first?_optional (Pattern.first?_one (by decide))

theorem first?_marked (h : n.Fits locale) :
    (Pattern.optional (.both (.one (· == locale.decimal)) (.oneOrMore isDigit))).first?
      (n.marked locale ++ n.rest) = some (n.marked locale, n.rest) := by
  by_cases hnil : n.fraction = []
  · rw [marked_of_nil locale hnil, List.nil_append]
    refine Pattern.first?_optional_of_none (Pattern.first?_both_eq_none fun _ behind hmem => ?_)
    obtain ⟨c, -, hrest, hc⟩ := Pattern.mem_ways_one hmem
    rw [eq_of_beq hc] at hrest
    exact Pattern.first?_oneOrMore_eq_none (h.no_fraction hnil behind hrest)
  · rw [marked_of_ne_nil locale hnil]
    obtain ⟨c, fraction, hfraction⟩ := List.exists_cons_of_ne_nil hnil
    have hdigits := h.fraction
    rw [hfraction] at hdigits ⊢
    obtain ⟨hc, hdigits⟩ := List.forall_mem_cons.mp hdigits
    exact Pattern.first?_optional (Pattern.first?_both (Pattern.first?_one (beq_self_eq_true _))
      (Pattern.first?_oneOrMore hc hdigits (h.fraction_longest hnil)))

/-- The pattern finds the parts of a number, at the first way that is tried in each place. -/
theorem first?_numeral (h : n.Fits locale) : locale.numeral.first? (n.sign ++ n.unsigned locale) =
    some (n.sign ++ (n.first :: (n.run ++ n.marked locale)), n.rest) := by
  have hrun := Pattern.first?_both (Pattern.first?_many h.run h.run_longest) (first?_marked h)
  exact Pattern.first?_both (first?_sign h.sign h.first _)
    (Pattern.first?_both (Pattern.first?_one h.first) hrun)

theorem matched?_of_fits (h : n.Fits locale) : locale.matched? (n.text locale) =
    some (n.sign ++ (n.first :: (n.run ++ n.marked locale))) := by
  have hblanks : (Pattern.many isWhitespace).first? (n.text locale) =
      some (n.blanks, n.sign ++ n.unsigned locale) :=
    Pattern.first?_many h.blanks (Text.stops_isWhitespace h.sign h.first _)
  obtain ⟨others, hways⟩ := Pattern.first?_eq_some_iff.mp hblanks
  simp only [matched?, hways, List.findSome?_cons, first?_numeral h, Option.map_some]

/-- However much white space is taken, no numeral is found where none starts. -/
theorem matched?_eq_none (h : ¬text.StartsNumber) : locale.matched? text = none := by
  refine List.findSome?_eq_none_iff.mpr ?_
  rintro ⟨blanks, core⟩ hmem
  obtain ⟨htext, hblanks⟩ := Pattern.mem_ways_many hmem
  rw [Option.map_eq_none_iff, Pattern.first?_eq_none_iff]
  refine List.eq_nil_iff_forall_not_mem.mpr ?_
  rintro ⟨matched, rest⟩ hmatched
  obtain ⟨sign, unsigned, more, hsign, hmore, -⟩ := Pattern.mem_ways_both hmatched
  obtain ⟨digit, behind, -, hdigit, -, -⟩ := Pattern.mem_ways_both hmore
  obtain ⟨c, -, hunsigned, hc⟩ := Pattern.mem_ways_one hdigit
  refine h ?_
  rcases Pattern.mem_ways_optional hsign with htaken | ⟨-, hleft⟩
  · obtain ⟨s, -, hcore, hs⟩ := Pattern.mem_ways_one htaken
    have hsigns : ∀ s ∈ lit "+-", [s] ∈ signs := by decide
    exact ⟨blanks, [s], c, behind, by rw [htext, hcore, hunsigned]; rfl, hblanks,
      hsigns s (List.contains_iff_mem.mp hs), hc⟩
  · exact ⟨blanks, [], c, behind, by rw [htext, ← hleft, hunsigned]; rfl, hblanks, by decide, hc⟩

/-- Without its group marks a run consists of digits. -/
theorem isDigit_of_mem_filter {run : Text} (h : ∀ c ∈ run, locale.inWhole c) :
    ∀ c ∈ run.filter (· != locale.group), isDigit c := by
  intro c hc
  obtain ⟨hmem, hne⟩ := List.mem_filter.mp hc
  rcases (Bool.or_eq_true _ _).mp (h c hmem) with hdigit | hgroup
  · exact hdigit
  · exact absurd hne (by simp [eq_of_beq hgroup])

theorem filter_of_fits (hlegible : locale.Legible) (h : n.Fits locale) :
    (n.sign ++ (n.first :: (n.run ++ n.marked locale))).filter (· != locale.group) =
      n.sign ++ (n.first :: n.run.filter (· != locale.group) ++ n.marked locale) := by
  have hkept {part : Text} (hpart : ∀ c ∈ part, c ≠ locale.group) :
      part.filter (· != locale.group) = part :=
    List.filter_eq_self.mpr fun c hc => bne_iff_ne.mpr (hpart c hc)
  have hsign := Text.ne_of_mem_sign h.sign hlegible.group_not_sign
  have hfirst : ∀ c ∈ [n.first], c ≠ locale.group :=
    List.forall_mem_singleton.mpr (Text.ne_of_isDigit hlegible.group_not_digit h.first)
  have hmarked : ∀ c ∈ n.marked locale, c ≠ locale.group := by
    by_cases hnil : n.fraction = []
    · rw [marked_of_nil locale hnil]
      exact List.forall_mem_nil _
    · rw [marked_of_ne_nil locale hnil]
      exact List.forall_mem_cons.mpr ⟨hlegible.group_ne_decimal.symm, fun c hc =>
        Text.ne_of_isDigit hlegible.group_not_digit (h.fraction c hc)⟩
  rw [← List.singleton_append, List.filter_append, List.filter_append, List.filter_append,
    hkept hsign, hkept hfirst, hkept hmarked]
  rfl

theorem replaced_of_fits (hlegible : locale.Legible) (h : n.Fits locale) :
    replaced locale.decimal '.'.toNat
        (n.sign ++ (n.first :: n.run.filter (· != locale.group) ++ n.marked locale)) =
      n.sign ++ (n.first :: n.run.filter (· != locale.group) ++ pointed n.fraction) := by
  have hsame {part : Text} (hpart : ∀ c ∈ part, c ≠ locale.decimal) :
      replaced locale.decimal '.'.toNat part = part :=
    (List.map_congr_left fun c hc => if_neg (hpart c hc)).trans (List.map_id part)
  have hdigits {part : Text} (hpart : ∀ c ∈ part, isDigit c) :
      replaced locale.decimal '.'.toNat part = part :=
    hsame fun c hc => Text.ne_of_isDigit hlegible.decimal_not_digit (hpart c hc)
  have hsign := Text.ne_of_mem_sign h.sign hlegible.decimal_not_sign
  have hmarked : replaced locale.decimal '.'.toNat (n.marked locale) = pointed n.fraction := by
    by_cases hnil : n.fraction = []
    · rw [marked_of_nil locale hnil, hnil]
      rfl
    · rw [marked_of_ne_nil locale hnil, Text.pointed_of_ne_nil hnil]
      exact congrArg₂ List.cons (if_pos rfl) (hdigits h.fraction)
  have hwhole := hdigits (List.forall_mem_cons.mpr ⟨h.first, isDigit_of_mem_filter h.run⟩)
  have happend (front back : Text) : replaced locale.decimal '.'.toNat (front ++ back) =
      replaced locale.decimal '.'.toNat front ++ replaced locale.decimal '.'.toNat back :=
    List.map_append
  rw [happend, happend, hsame hsign, hwhole, hmarked]

/-- The group marks are no digits. -/
theorem filterMap_filter (hlegible : locale.Legible) (text : Text) :
    (text.filter (· != locale.group)).filterMap digitValue? = text.filterMap digitValue? := by
  have hnone : digitValue? locale.group = none := by
    simpa [isDigit] using hlegible.group_not_digit
  rw [List.filterMap_filter]
  refine List.filterMap_congr fun c _ => ?_
  by_cases hgroup : c = locale.group
  · rw [hgroup, hnone, ite_self]
  · rw [if_pos (bne_iff_ne.mpr hgroup)]

theorem length_filterMap {written : Text} (h : ∀ c ∈ written, isDigit c) :
    (written.filterMap digitValue?).length = written.length := by
  have hlength := congrArg List.length (Digits.map_eq_text h)
  rw [List.length_map, Digits.length_text] at hlength
  exact hlength.symm

/-- What the pattern finds is always read, and as the number of the text. -/
theorem matchedNumber?_eq (hlegible : locale.Legible) (text : Text) :
    locale.matchedNumber? text = some (locale.leadingNumber text) := by
  by_cases hstarts : text.StartsNumber
  · obtain ⟨n, h, rfl⟩ := exists_fits hlegible hstarts
    have hwhole : ∀ c ∈ n.first :: n.run.filter (· != locale.group), isDigit c :=
      List.forall_mem_cons.mpr ⟨h.first, isDigit_of_mem_filter h.run⟩
    have hbound (written : Text) : ∀ d ∈ written.filterMap digitValue?, d < 10 := by
      intro d hd
      obtain ⟨c, -, hc⟩ := List.mem_filterMap.mp hd
      exact Text.digitValue?_lt hc
    have hne : (n.first :: n.run.filter (· != locale.group)).filterMap digitValue? ≠ [] := by
      rw [← List.length_pos_iff, length_filterMap hwhole]
      exact Nat.succ_pos _
    have hdigits : (n.first :: n.run.filter (· != locale.group)).filterMap digitValue? ++
        n.fraction.filterMap digitValue? = n.digits := by
      rw [Leading.digits, List.filterMap_append, ← List.singleton_append, List.filterMap_append,
        filterMap_filter hlegible, ← List.filterMap_append, List.singleton_append]
    simp only [matchedNumber?, matched?_of_fits h]
    rw [filter_of_fits hlegible h, replaced_of_fits hlegible h,
      Scientific.plain_numeral h.sign hwhole h.fraction,
      Binary64.ofText?_numeral h.sign hne (hbound _) (hbound _), leadingNumber_of_fits h,
      hdigits, length_filterMap h.fraction]
    rfl
  · rw [matchedNumber?, matched?_eq_none hstarts, leadingNumber_of_not_startsNumber hstarts]

/-! ### Other texts with the same number -/

/-- Group marks in the whole part may be left out or put in. -/
theorem leadingNumber_regrouped (hlegible : locale.Legible) (h : n.Fits locale) {run : Text}
    (hrun : run.filter (· != locale.group) = n.run.filter (· != locale.group)) :
    locale.leadingNumber ({ n with run := run }.text locale) =
      locale.leadingNumber (n.text locale) := by
  have hfits : { n with run := run }.Fits locale := by
    refine { h with run := fun c hc => ?_ }
    by_cases hgroup : c = locale.group
    · rw [hgroup, inWhole, beq_self_eq_true, Bool.or_true]
    · have hmem : c ∈ run.filter (· != locale.group) :=
        List.mem_filter.mpr ⟨hc, bne_iff_ne.mpr hgroup⟩
      rw [hrun] at hmem
      exact h.run c (List.mem_of_mem_filter hmem)
  have hdigits : { n with run := run }.digits = n.digits := by
    have hsame : run.filterMap digitValue? = n.run.filterMap digitValue? := by
      rw [← filterMap_filter hlegible, hrun, filterMap_filter hlegible]
    simp only [Leading.digits, List.filterMap_append, List.filterMap_cons, hsame]
  rw [leadingNumber_of_fits hfits, leadingNumber_of_fits h, hdigits]
  rfl

/-- What follows a number does not change it, unless it begins with a digit or a mark. -/
theorem leadingNumber_append (h : n.Fits locale) {suffix : Text}
    (hstops : Stops (fun c => locale.inWhole c || c == locale.decimal) suffix) :
    locale.leadingNumber (n.text locale ++ suffix) = locale.leadingNumber (n.text locale) := by
  have happend {p : Nat → Bool} {text : Text} (htext : Stops p text) (hsuffix : Stops p suffix) :
      Stops p (text ++ suffix) := by
    cases text with
    | nil => exact hsuffix
    | cons c text => exact htext
  have hdigit : Stops isDigit suffix ∧ Stops locale.inWhole suffix ∧
      ∀ behind, suffix ≠ locale.decimal :: behind := by
    cases suffix with
    | nil => exact ⟨Text.stops_nil, Text.stops_nil, fun _ h => nomatch h⟩
    | cons c suffix =>
      rw [Text.stops_cons_iff, Bool.or_eq_false_iff] at hstops
      obtain ⟨hwhole, hdecimal⟩ := hstops
      refine ⟨Text.stops_cons_iff.mpr (Bool.or_eq_false_iff.mp hwhole).1,
        Text.stops_cons_iff.mpr hwhole, fun behind heq => ?_⟩
      exact absurd (List.cons.inj heq).1 (beq_eq_false_iff_ne.mp hdecimal)
  obtain ⟨hdigit, hwhole, hdecimal⟩ := hdigit
  have hfits : { n with rest := n.rest ++ suffix }.Fits locale := by
    refine { h with run_longest := ?_, fraction_longest := ?_, no_fraction := ?_ }
    · have hlongest := happend h.run_longest hwhole
      rwa [List.append_assoc] at hlongest
    · exact fun hne => happend (h.fraction_longest hne) hdigit
    · intro hnil behind hbehind
      have hstops := h.no_fraction hnil
      change n.rest ++ suffix = _ at hbehind
      generalize n.rest = rest at hbehind hstops
      cases rest with
      | nil => exact absurd hbehind (hdecimal behind)
      | cons c rest =>
        obtain ⟨rfl, rfl⟩ := List.cons.inj hbehind
        exact happend (hstops rest rfl) hdigit
  have htext : n.text locale ++ suffix = { n with rest := n.rest ++ suffix }.text locale := by
    simp only [Leading.text, Leading.unsigned, Leading.marked, List.append_assoc, List.cons_append]
  rw [htext, leadingNumber_of_fits hfits, leadingNumber_of_fits h]
  rfl

/-- The marks of every locale that an identifier finds can be told apart, and with such marks each
text has a number, which is what the pattern finds and reads.  It is zero if the text does not start
with a number; otherwise the text is cut in one way only, and its number is the one that is nearest
to what the digits write.  Group marks in the whole part do not matter, nor does what follows the
number and begins with neither a digit nor a mark. -/
theorem leadingNumber_of_legible [Catalog] (text : Text) :
    (∀ identifier locale, find identifier = .ok locale → locale.Legible ∧
      Phrase.leadingNumber text identifier = .ok (locale.leadingNumber text)) ∧
    ∀ locale : Locale, locale.Legible →
      locale.matchedNumber? text = some (locale.leadingNumber text) ∧
      (¬text.StartsNumber → locale.leadingNumber text = .finite false 0 Binary64.leastExponent) ∧
      (text.StartsNumber → ∃! n : Leading, n.Fits locale ∧ n.text locale = text) ∧
      ∀ n : Leading, n.Fits locale → n.text locale = text →
        (∀ x, Binary64.IsNearest n.negative n.magnitude x ↔ x = locale.leadingNumber text) ∧
        (∀ run : Text, run.filter (· != locale.group) = n.run.filter (· != locale.group) →
          locale.leadingNumber ({ n with run := run }.text locale) = locale.leadingNumber text) ∧
        ∀ suffix, Stops (fun c => locale.inWhole c || c == locale.decimal) suffix →
          locale.leadingNumber (text ++ suffix) = locale.leadingNumber text := by
  refine ⟨fun identifier locale hfind => ⟨legible_of_find hfind, ?_⟩, fun locale hlegible => ?_⟩
  · rw [Phrase.leadingNumber, hfind]
  · refine ⟨matchedNumber?_eq hlegible text, leadingNumber_of_not_startsNumber,
      fun hstarts => ?_, ?_⟩
    · obtain ⟨n, hn, htext⟩ := exists_fits hlegible hstarts
      exact ⟨n, ⟨hn, htext⟩, fun m hm => eq_of_fits hm.1 hn (hm.2.trans htext.symm)⟩
    · rintro n hn rfl
      have hnearest : Binary64.IsNearest n.negative n.magnitude
          (locale.leadingNumber (n.text locale)) := by
        rw [leadingNumber_of_fits hn]
        exact Binary64.isNearest_ofDecimal n.negative _ _
      exact ⟨fun x => ⟨fun h => h.unique hnearest, fun h => h ▸ hnearest⟩,
        fun run hrun => leadingNumber_regrouped hlegible hn hrun,
        fun suffix hstops => leadingNumber_append hn hstops⟩

/-- A number in German, without its group mark, and with another sign behind it. -/
theorem leadingNumber_german :
    let german := comma "de" Plural.Rules.english
    let n : Leading := ⟨lit " ", lit "-", '1'.toNat, lit ".234", lit "5", []⟩
    let number : Binary64 := .finite true (2469 * 2 ^ 41) (-42)
    find (lit "de") = .ok german ∧ german.Legible ∧ n.Fits german ∧
      n.text german = lit " -1.234,5" ∧ (lit " -1.234,5").StartsNumber ∧
      Phrase.leadingNumber (lit " -1.234,5") (lit "de") = .ok number ∧
      german.matchedNumber? (lit " -1.234,5") = some number ∧
      (∀ x, Binary64.IsNearest true (value 10 12345 (-1)) x ↔ x = number) ∧
      german.leadingNumber (lit " -1234,5") = number ∧
      german.leadingNumber (lit " -1.234,5-6") = number ∧
      ¬(lit "- 1").StartsNumber ∧
      german.leadingNumber (lit "- 1") = .finite false 0 Binary64.leastExponent := by
  intro german n number
  have hfind : find (lit "de") = .ok german := rfl
  obtain ⟨hphrase, hnumber⟩ := leadingNumber_of_legible (lit " -1.234,5")
  obtain ⟨hlegible, hphrase⟩ := hphrase (lit "de") german hfind
  have hfits : n.Fits german :=
    ⟨by decide, by decide, by decide, by decide, by decide, Text.stops_cons_iff.mpr (by decide),
      fun _ => Text.stops_nil, fun h => nomatch h⟩
  have htext : n.text german = lit " -1.234,5" := rfl
  have hstarts : (lit " -1.234,5").StartsNumber :=
    ⟨lit " ", lit "-", '1'.toNat, lit ".234,5", rfl, by decide, by decide, by decide⟩
  obtain ⟨hmatched, -, -, hcut⟩ := hnumber german hlegible
  obtain ⟨hnearest, hregrouped, hfollowed⟩ := hcut n hfits htext
  have hword : ¬(lit "- 1").StartsNumber := by decide
  obtain ⟨-, hzero, -⟩ := (leadingNumber_of_legible (lit "- 1")).2 german hlegible
  have hdigits : Digits.toNat 10 n.digits = 12345 := by decide
  have hmagnitude : n.magnitude = value 10 12345 (-1) := congrArg (value 10 · (-1)) hdigits
  have hvalue : german.leadingNumber (lit " -1.234,5") = number := by
    have hread : Binary64.ofDecimal true 12345 (-1) = number := by with_unfolding_all rfl
    rw [← htext, leadingNumber_of_fits hfits, hdigits]
    exact hread
  have hungrouped := hregrouped (lit "234") (by decide)
  have hlonger := hfollowed (lit "-6") (Text.stops_cons_iff.mpr (by decide))
  rw [hmagnitude] at hnearest
  rw [hvalue] at hphrase hmatched hnearest hungrouped hlonger
  exact ⟨hfind, hlegible, hfits, htext, hstarts, hphrase, hmatched, hnearest, hungrouped, hlonger,
    hword, hzero hword⟩

end Locale

end Phrasebook
