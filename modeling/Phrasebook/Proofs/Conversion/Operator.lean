import Phrasebook.Locale.Known
import Phrasebook.Proofs.Conversion.Sprintf
import Phrasebook.Proofs.Template.Parsing

/-! Conversions that are found and conversions that can be applied.  A conversion that a text writes
has digits of any script; the operator that applies it knows the digits `0` to `9` only.  With
those, a conversion within the limits fails for no reason but the value; with others, it fails for
every value. -/

namespace Phrasebook

open Text (lit isDigit isAsciiDigit asciiUpper)

/-! ### The conversions of the operator -/

namespace Operator

/-- The digits of a width or of a precision, which may be none, or a star that takes a value for
them. -/
inductive Amount : Text → Nat → Prop
  | digits {run : Text} : (∀ c ∈ run, isAsciiDigit c) → Amount run 0
  | star : Amount (lit "*") 1

inductive Precision : Text → Nat → Prop
  | absent : Precision [] 0
  | point {text : Text} {n : Nat} : Amount text n → Precision ('.'.toNat :: text) n

/-- The text is one complete conversion, which takes `n` values of a tuple: flags, a width, a
precision, a length modifier that means nothing, and a letter.  Two percent signs take no value for
themselves. -/
inductive Takes : Text → Nat → Prop
  | mk {flags width precision modifier : Text} {letter w p : Nat} :
      (∀ c ∈ flags, c ∈ lit "-+ #0") → Amount width w → Precision precision p →
      modifier ∈ [lit "", lit "h", lit "l", lit "L"] → letter ∈ lit "diouxXeEfFgGcrsa%" →
      Takes ('%'.toNat :: (flags ++ width ++ precision ++ modifier ++ [letter]))
        (w + p + if letter = '%'.toNat then 0 else 1)

variable {text : Text} {n : Nat}

theorem lt_of_isAsciiDigit {c : Nat} (h : isAsciiDigit c) : c < 128 := by
  simp only [isAsciiDigit, Bool.and_eq_true, decide_eq_true_eq] at h
  exact lt_of_le_of_lt h.2 (by decide)

theorem Amount.lt (h : Amount text n) : ∀ c ∈ text, c < 128 := by
  cases h with
  | digits hdigits => exact fun c hc => lt_of_isAsciiDigit (hdigits c hc)
  | star => decide

theorem Precision.lt (h : Precision text n) : ∀ c ∈ text, c < 128 := by
  cases h with
  | absent => exact fun _ hc => nomatch hc
  | point hamount => exact List.forall_mem_cons.mpr ⟨by decide, hamount.lt⟩

/-- The operator knows only ASCII. -/
theorem Takes.lt (h : Takes text n) : ∀ c ∈ text, c < 128 := by
  obtain ⟨hflags, hwidth, hprecision, hmodifier, hletter⟩ := h
  have hflag : ∀ c ∈ lit "-+ #0", c < 128 := by decide
  have hmodifiers : ∀ m ∈ [lit "", lit "h", lit "l", lit "L"], ∀ c ∈ m, c < 128 := by decide
  have hletters : ∀ c ∈ lit "diouxXeEfFgGcrsa%", c < 128 := by decide
  simp only [List.forall_mem_cons, List.forall_mem_append]
  exact ⟨by decide, ⟨⟨⟨fun c hc => hflag c (hflags c hc), hwidth.lt⟩, hprecision.lt⟩,
    hmodifiers _ hmodifier⟩, hletters _ hletter, fun _ hc => nomatch hc⟩

end Operator

theorem Text.isAsciiDigit_of_lt {c : Nat} (hc : c < 128) (h : isDigit c) : isAsciiDigit c := by
  have hall : ∀ c < 128, isDigit c → isAsciiDigit c := by decide
  exact hall c hc h

namespace Conversion

/-- No digit is one of another script. -/
structure IsAscii (spec : Conversion) : Prop where
  width : ∀ c ∈ spec.width, isAsciiDigit c
  precision : ∀ digits ∈ spec.precision, ∀ c ∈ digits, isAsciiDigit c

variable {spec : Conversion}

/-- A conversion that is found is one of the operator, for one value, if and only if its digits are
ASCII. -/
theorem WellFormed.takes_iff (h : spec.WellFormed) :
    Operator.Takes spec.pattern 1 ↔ spec.IsAscii := by
  constructor
  · intro htakes
    have hpattern : ∀ c ∈ spec.pattern, isDigit c → isAsciiDigit c :=
      fun c hc hdigit => Text.isAsciiDigit_of_lt (htakes.lt c hc) hdigit
    refine ⟨fun c hc => hpattern c ?_ (h.width c hc),
      fun digits hdigits c hc => hpattern c ?_ (h.precision digits hdigits c hc)⟩
    · simp [pattern, written, hc]
    · have hprecision : spec.precision = some digits := hdigits
      simp [pattern, written, precisionText, hprecision, hc]
  · intro hascii
    have hflags : ∀ c ∈ spec.flags.map Flag.character, c ∈ lit "-+ #0" := by
      intro c hc
      obtain ⟨flag, -, rfl⟩ := List.mem_map.mp hc
      cases flag <;> decide
    have hletter : spec.letter.character ∈ lit "diouxXeEfFgGcrsa%" := by
      cases spec.letter <;> decide
    have hvalue : spec.letter.character ≠ '%'.toNat := by
      cases spec.letter <;> decide
    have hprecision : Operator.Precision (precisionText spec.precision) 0 := by
      cases hdigits : spec.precision with
      | none => exact .absent
      | some digits => exact .point (.digits (hascii.precision digits hdigits))
    have htakes := Operator.Takes.mk hflags (.digits hascii.width) hprecision
      (List.mem_cons_self : lit "" ∈ _) hletter
    rw [if_neg hvalue] at htakes
    simpa [lit, pattern, written] using htakes

/-! ### Reading the numbers -/

theorem readNumber_of_ascii {digits : Text} (h : ∀ c ∈ digits, isAsciiDigit c) {greatest : Nat}
    (hle : Scientific.ofDigits digits ≤ greatest) (index : Nat) (tooBig : Fault) :
    Layout.readNumber digits index greatest tooBig = .ok (Scientific.ofDigits digits) := by
  have htake : digits.takeWhile isAsciiDigit = digits := List.takeWhile_eq_self_iff.mpr h
  have hdrop : digits.dropWhile isAsciiDigit = [] := List.dropWhile_eq_nil_iff.mpr h
  simp only [Layout.readNumber, htake, hdrop, if_neg (Nat.not_lt.mpr hle)]

/-- A number is too big, or it has a digit of another script, or it is read. -/
theorem readNumber_cases (digits : Text) (index greatest : Nat) (tooBig : Fault) :
    Layout.readNumber digits index greatest tooBig = .error tooBig ∨
    (∃ c i, digits[i]? = some c ∧ isAsciiDigit c = false ∧
      Layout.readNumber digits index greatest tooBig =
        .error (.unsupportedCharacter c (index + i))) ∨
    ((∀ c ∈ digits, isAsciiDigit c) ∧ ∃ n,
      Layout.readNumber digits index greatest tooBig = .ok n) := by
  have hdigits := List.takeWhile_append_dropWhile (p := isAsciiDigit) (l := digits)
  have hstops := Text.stops_dropWhile (p := isAsciiDigit) digits
  simp only [Layout.readNumber]
  split
  · exact .inl rfl
  · cases hdrop : digits.dropWhile isAsciiDigit with
    | nil => exact .inr (.inr ⟨List.dropWhile_eq_nil_iff.mp hdrop, _, rfl⟩)
    | cons c rest =>
      rw [hdrop] at hdigits hstops
      refine .inr (.inl ⟨c, (digits.takeWhile isAsciiDigit).length, ?_, ?_, rfl⟩)
      · rw [← hdigits, List.getElem?_append_right]
        · simp [hdigits]
        · rw [hdigits]
      · exact Text.stops_cons_iff.mp hstops

/-- The layout of the conversion, where its numbers are known. -/
def laidOut (spec : Conversion) (width : Nat) (precision : Option Nat) : Layout where
  left := spec.flags.contains .left
  plus := spec.flags.contains .plus
  blank := spec.flags.contains .blank
  zero := spec.flags.contains .zero || spec.width.head? == some '0'.toNat
  alternate := spec.flags.contains .alternate
  width := width
  precision := precision

/-- Where the width begins in the pattern. -/
def widthIndex (spec : Conversion) : Nat := 1 + spec.flags.length

/-- Where the digits of the precision begin in the pattern. -/
def precisionIndex (spec : Conversion) : Nat := spec.widthIndex + spec.width.length + 1

/-- The width is read before the precision. -/
theorem ofConversion_eq (spec : Conversion) : Layout.ofConversion spec =
    (Layout.readNumber spec.width spec.widthIndex Layout.greatestWidth .widthTooBig).bind
      fun width =>
        match spec.precision with
        | none => .ok (spec.laidOut width none)
        | some digits =>
          (Layout.readNumber digits spec.precisionIndex Layout.greatestPrecision
            .precisionTooBig).map fun precision => spec.laidOut width (some precision) := by
  simp only [Layout.ofConversion, precisionIndex, widthIndex]
  refine bind_congr fun width => ?_
  cases spec.precision with
  | none => rfl
  | some digits =>
    simp only
    cases Layout.readNumber digits (1 + spec.flags.length + spec.width.length + 1)
      Layout.greatestPrecision .precisionTooBig <;> rfl

/-- The numbers of the conversion can be counted. -/
structure WithinLimits (spec : Conversion) : Prop where
  width : Scientific.ofDigits spec.width ≤ Layout.greatestWidth
  precision : ∀ digits ∈ spec.precision, Scientific.ofDigits digits ≤ Layout.greatestPrecision
  digits : spec.letter ∈ [.d, .i, .u, .o, .x, .X] →
    ∀ digits ∈ spec.precision, Scientific.ofDigits digits ≤ greatestDigits

theorem ofConversion_of_ascii (h : spec.IsAscii) (hlimits : spec.WithinLimits) :
    Layout.ofConversion spec =
      .ok (spec.laidOut (Scientific.ofDigits spec.width)
        (spec.precision.map Scientific.ofDigits)) := by
  rw [ofConversion_eq, readNumber_of_ascii h.width hlimits.width]
  cases hprecision : spec.precision with
  | none => rfl
  | some digits =>
    have hread := readNumber_of_ascii (h.precision digits hprecision)
      (hlimits.precision digits hprecision) spec.precisionIndex .precisionTooBig
    show Except.map _ (Layout.readNumber digits _ _ _) = _
    rw [hread]
    rfl

/-- The fault is that of a character of the pattern, a digit of another script. -/
def Blames (spec : Conversion) (fault : Fault) : Prop :=
  ∃ c i, fault = .unsupportedCharacter c i ∧ spec.pattern[i]? = some c ∧ isDigit c ∧
    isAsciiDigit c = false

theorem getElem?_of_append {front back : Text} {c i : Nat} (h : back[i]? = some c) :
    (front ++ back)[front.length + i]? = some c := by
  rw [List.getElem?_append_right (Nat.le_add_right _ _), Nat.add_sub_cancel_left, h]

theorem WellFormed.blames_width (h : spec.WellFormed) {c i : Nat} (hi : spec.width[i]? = some c)
    (hc : isAsciiDigit c = false) :
    spec.Blames (.unsupportedCharacter c (spec.widthIndex + i)) := by
  refine ⟨c, _, rfl, ?_, h.width c (List.mem_of_getElem? hi), hc⟩
  have hpattern : spec.pattern = ('%'.toNat :: spec.flags.map Flag.character) ++
      (spec.width ++ (precisionText spec.precision ++ [spec.letter.character])) := by
    simp [pattern, written]
  have hlength : ('%'.toNat :: spec.flags.map Flag.character).length = spec.widthIndex := by
    simp [widthIndex, Nat.add_comm]
  rw [hpattern, ← hlength]
  refine getElem?_of_append ?_
  rw [List.getElem?_append_left (List.getElem?_eq_some_iff.mp hi).1, hi]

theorem WellFormed.blames_precision (h : spec.WellFormed) {digits : Text}
    (hprecision : spec.precision = some digits) {c i : Nat} (hi : digits[i]? = some c)
    (hc : isAsciiDigit c = false) :
    spec.Blames (.unsupportedCharacter c (spec.precisionIndex + i)) := by
  refine ⟨c, _, rfl, ?_, h.precision digits hprecision c (List.mem_of_getElem? hi), hc⟩
  have hpattern : spec.pattern =
      (spec.lead ++ ['.'.toNat]) ++ (digits ++ [spec.letter.character]) := by
    simp [pattern_eq_lead_append, precisionText, hprecision]
  have hlength : (spec.lead ++ ['.'.toNat]).length = spec.precisionIndex := by
    simp [lead, precisionIndex, widthIndex]
    omega
  rw [hpattern, ← hlength]
  refine getElem?_of_append ?_
  rw [List.getElem?_append_left (List.getElem?_eq_some_iff.mp hi).1, hi]

theorem WellFormed.ofConversion_of_not_ascii (h : spec.WellFormed) (hascii : ¬spec.IsAscii) :
    ∃ fault, Layout.ofConversion spec = .error fault ∧
      (fault = .widthTooBig ∨ fault = .precisionTooBig ∨ spec.Blames fault) := by
  rw [ofConversion_eq]
  rcases readNumber_cases spec.width spec.widthIndex Layout.greatestWidth .widthTooBig with
    hbig | ⟨c, i, hi, hc, hread⟩ | ⟨hwidth, width, hread⟩
  · rw [hbig]
    exact ⟨_, rfl, .inl rfl⟩
  · rw [hread]
    exact ⟨_, rfl, .inr (.inr (h.blames_width hi hc))⟩
  · rw [hread]
    cases hprecision : spec.precision with
    | none =>
      refine absurd ⟨hwidth, fun digits hdigits => ?_⟩ hascii
      rw [hprecision] at hdigits
      cases hdigits
    | some digits =>
      show ∃ fault, Except.map _ (Layout.readNumber digits _ _ _) = _ ∧ _
      rcases readNumber_cases digits spec.precisionIndex Layout.greatestPrecision
        .precisionTooBig with hbig | ⟨c, i, hi, hc, hread⟩ | ⟨hdigits, precision, hread⟩
      · rw [hbig]
        exact ⟨_, rfl, .inr (.inl rfl)⟩
      · rw [hread]
        exact ⟨_, rfl, .inr (.inr (h.blames_precision hprecision hi hc))⟩
      · refine absurd ⟨hwidth, fun digits' hdigits' => ?_⟩ hascii
        rw [hprecision] at hdigits'
        cases hdigits'
        exact hdigits

/-! ### Faults of the value -/

/-- The faults that lie in the value: it is of another kind than the letter asks for, or out of
range. -/
def Fault.OfValue : Fault → Prop
  | .widthTooBig => False
  | .precisionTooBig => False
  | .precisionTooLarge => False
  | .unsupportedCharacter _ _ => False
  | _ => True

def faultOf {α : Type} : Except Fault α → Option Fault
  | .error fault => some fault
  | .ok _ => none

theorem faultOf_eq_some_iff {α : Type} {result : Except Fault α} {fault : Fault} :
    faultOf result = some fault ↔ result = .error fault := by
  cases result <;> simp [faultOf]

/-- The text of a value as it is shown. -/
def shown (v : Value) : Except Fault Text :=
  match v.shown? with
  | some shown => .ok shown
  | none => .error .tooManyDigits

/-- What is wrong with a value for a letter. -/
def fault? (letter : Letter) (v : Value) : Option Fault :=
  match letter with
  | .d | .i | .u =>
    match truncated letter v with
    | .error fault => some fault
    | .ok n => if Digits.exceedsLimit n.natAbs then some .tooManyDigits else none
  | .o | .x | .X => faultOf (integer letter v)
  | .e | .E | .f | .F | .g | .G => faultOf (real v)
  | .c => faultOf (character v)
  | .s => faultOf (shown v)

/-- The text of a value in a layout. -/
def fill (layout : Layout) (letter : Letter) (v : Value) : Except Fault Text :=
  match letter with
  | .d | .i | .u => (truncated letter v).bind (inBase layout 10 [])
  | .o => (integer .o v).bind (inBase layout 8 (lit "0o"))
  | .x => (integer .x v).bind (inBase layout 16 (lit "0x"))
  | .X => ((integer .X v).bind (inBase layout 16 (lit "0x"))).map asciiUpper
  | .f => (real v).map (inStyle layout .fixed false)
  | .F => (real v).map (inStyle layout .fixed true)
  | .e => (real v).map (inStyle layout .scientific false)
  | .E => (real v).map (inStyle layout .scientific true)
  | .g => (real v).map (inStyle layout .general false)
  | .G => (real v).map (inStyle layout .general true)
  | .c => (character v).map fun c => layout.padText [c]
  | .s => (shown v).map fun shown => layout.padText (layout.precision.elim shown shown.take)

theorem apply_eq_bind_fill (spec : Conversion) (v : Value) :
    spec.apply v = (Layout.ofConversion spec).bind fun layout => fill layout spec.letter v := by
  unfold apply
  refine bind_congr fun layout => ?_
  cases spec.letter with
  | X =>
    simp only [fill]
    cases integer .X v <;> rfl
  | s =>
    simp only [fill, shown]
    cases v.shown? <;> rfl
  | _ => rfl

variable {α β : Type}

theorem faultOf_map (f : α → β) (result : Except Fault α) :
    faultOf (result.map f) = faultOf result := by
  cases result <;> rfl

/-- The digits that a layout asks for can be counted. -/
def Countable (layout : Layout) (letter : Letter) : Prop :=
  letter ∈ [.d, .i, .u, .o, .x, .X] → layout.precision.getD 0 ≤ greatestDigits

theorem faultOf_inBase {layout : Layout} (h : layout.precision.getD 0 ≤ greatestDigits)
    (base : Nat) (mark : Text) (n : Int) : faultOf (inBase layout base mark n) =
      if base = 10 ∧ Digits.exceedsLimit n.natAbs then some .tooManyDigits else none := by
  simp only [inBase, if_neg (Nat.not_lt.mpr h)]
  split <;> rfl

/-- Only the value and the letter make a value fail in a layout that can be counted. -/
theorem faultOf_fill {layout : Layout} {letter : Letter} (h : Countable layout letter) (v : Value) :
    faultOf (fill layout letter v) = fault? letter v := by
  have hinteger {base : Nat} (hbase : base ≠ 10) (mark : Text) (result : Except Fault Int)
      (hcountable : layout.precision.getD 0 ≤ greatestDigits) :
      faultOf (result.bind (inBase layout base mark)) = faultOf result := by
    cases result with
    | error fault => rfl
    | ok n => exact (faultOf_inBase hcountable base mark n).trans (if_neg fun hn => hbase hn.1)
  have hdecimal (letter : Letter) (hcountable : layout.precision.getD 0 ≤ greatestDigits) :
      faultOf ((truncated letter v).bind (inBase layout 10 [])) =
        match truncated letter v with
        | .error fault => some fault
        | .ok n => if Digits.exceedsLimit n.natAbs then some .tooManyDigits else none := by
    cases truncated letter v with
    | error fault => rfl
    | ok n =>
      have hfault := faultOf_inBase hcountable 10 [] n
      simp only [true_and] at hfault
      exact hfault
  cases letter with
  | d => exact hdecimal .d (h (by decide))
  | i => exact hdecimal .i (h (by decide))
  | u => exact hdecimal .u (h (by decide))
  | o => exact hinteger (by decide) _ _ (h (by decide))
  | x => exact hinteger (by decide) _ _ (h (by decide))
  | X => exact (faultOf_map _ _).trans (hinteger (by decide) _ _ (h (by decide)))
  | _ => exact faultOf_map _ _

theorem truncated_ofValue {letter : Letter} {v : Value} {fault : Fault}
    (h : truncated letter v = .error fault) : fault.OfValue := by
  unfold truncated at h
  split at h <;> cases h <;> trivial

theorem integer_ofValue {letter : Letter} {v : Value} {fault : Fault}
    (h : integer letter v = .error fault) : fault.OfValue := by
  unfold integer at h
  split at h
  · cases h
  · cases h
  · cases h
    trivial

theorem character_ofValue {v : Value} {fault : Fault} (h : character v = .error fault) :
    fault.OfValue := by
  unfold character at h
  split at h
  · cases h
  · split at h <;> cases h
    trivial
  · cases h
  · cases h
    trivial

theorem real_ofValue {v : Value} {fault : Fault} (h : real v = .error fault) : fault.OfValue := by
  have hint (n : Int) (hn : ((Binary64.ofInt? n).elim (.error .intTooLarge) .ok :
      Except Fault Binary64) = .error fault) : fault.OfValue := by
    cases hfound : Binary64.ofInt? n with
    | none =>
      rw [hfound] at hn
      cases hn
      trivial
    | some x =>
      rw [hfound] at hn
      cases hn
  unfold real at h
  split at h
  · cases h
  · exact hint _ h
  · exact hint _ h
  · cases h
  · cases h
  · cases h
  · cases h
    trivial
  · cases h
    trivial

theorem shown_ofValue {v : Value} {fault : Fault} (h : shown v = .error fault) : fault.OfValue := by
  unfold shown at h
  split at h <;> cases h
  trivial

theorem ofValue_of_fault? {letter : Letter} {v : Value} {fault : Fault}
    (h : fault? letter v = some fault) : fault.OfValue := by
  have hdecimal (letter : Letter) (h : (match truncated letter v with
      | .error fault => some fault
      | .ok n => if Digits.exceedsLimit n.natAbs then some .tooManyDigits else none) = some fault) :
      fault.OfValue := by
    cases htruncated : truncated letter v with
    | error fault' =>
      rw [htruncated] at h
      cases h
      exact truncated_ofValue htruncated
    | ok n =>
      simp only [htruncated] at h
      split at h <;> cases h
      trivial
  cases letter with
  | d => exact hdecimal .d h
  | i => exact hdecimal .i h
  | u => exact hdecimal .u h
  | o => exact integer_ofValue (faultOf_eq_some_iff.mp h)
  | x => exact integer_ofValue (faultOf_eq_some_iff.mp h)
  | X => exact integer_ofValue (faultOf_eq_some_iff.mp h)
  | c => exact character_ofValue (faultOf_eq_some_iff.mp h)
  | s => exact shown_ofValue (faultOf_eq_some_iff.mp h)
  | _ => exact real_ofValue (faultOf_eq_some_iff.mp h)

/-! ### What is found and what is applied -/

/-- The conversion with no more than its letter. -/
def bare (letter : Letter) : Conversion := ⟨[], [], none, letter⟩

theorem IsAscii.bare (letter : Letter) : (bare letter).IsAscii :=
  ⟨fun _ hc => (nomatch hc), fun _ hdigits => nomatch hdigits⟩

theorem WithinLimits.bare (letter : Letter) : (bare letter).WithinLimits :=
  ⟨(by decide : Scientific.ofDigits [] ≤ Layout.greatestWidth), fun _ hdigits => (nomatch hdigits),
    fun _ _ hdigits => nomatch hdigits⟩

/-- The layout of a conversion with ASCII digits. -/
def asciiLayout (spec : Conversion) : Layout :=
  spec.laidOut (Scientific.ofDigits spec.width) (spec.precision.map Scientific.ofDigits)

theorem IsAscii.apply_eq_fill (h : spec.IsAscii) (hlimits : spec.WithinLimits) (v : Value) :
    spec.apply v = fill spec.asciiLayout spec.letter v := by
  rw [apply_eq_bind_fill, ofConversion_of_ascii h hlimits]
  rfl

theorem WithinLimits.countable (h : spec.WithinLimits) :
    Countable spec.asciiLayout spec.letter := by
  intro hletter
  show (spec.precision.map Scientific.ofDigits).getD 0 ≤ greatestDigits
  cases hprecision : spec.precision with
  | none => exact Nat.zero_le _
  | some digits => exact h.digits hletter digits hprecision

/-- Within the limits, the flags, the width and the precision make no value fail. -/
theorem IsAscii.apply_eq_error_iff (h : spec.IsAscii) (hlimits : spec.WithinLimits) {v : Value}
    {fault : Fault} : spec.apply v = .error fault ↔ fault? spec.letter v = some fault := by
  rw [h.apply_eq_fill hlimits, ← faultOf_eq_some_iff, faultOf_fill hlimits.countable]

theorem WellFormed.apply_of_not_ascii (h : spec.WellFormed) (hascii : ¬spec.IsAscii) :
    ∃ fault, (fault = .widthTooBig ∨ fault = .precisionTooBig ∨ spec.Blames fault) ∧
      ∀ v, spec.apply v = .error fault := by
  obtain ⟨fault, hfault, hcause⟩ := h.ofConversion_of_not_ascii hascii
  refine ⟨fault, hcause, fun v => ?_⟩
  rw [apply_eq_bind_fill, hfault]
  rfl

end Conversion

/-- The conversion that is applied for a placeholder; one that writes none has the letter `s`. -/
def Segment.applied? : Segment → Option Conversion
  | .positional spec => some spec
  | .named _ spec => some (spec.getD .plain)
  | _ => none

/-- The conversions of a template are as they are found in a text. -/
theorem Template.wellFormed_of_mem {text : Text} {t : Template} (h : parse text = .ok t)
    {s : Segment} (hs : s ∈ t.segments) {spec : Conversion} (hspec : s.applied? = some spec) :
    spec.WellFormed := by
  obtain ⟨-, hpieces⟩ := parse_eq_ok_iff.mp h
  obtain ⟨front, back, hsegments⟩ := List.append_of_mem hs
  rw [hsegments] at hpieces
  obtain ⟨before, piece, behind, hscan, hpiece, -, -⟩ := Segment.exists_piece_of_append hpieces
  have hliteral : s.isLiteral = false := by
    cases s with
    | literal text => cases hspec
    | _ => rfl
  obtain ⟨p, rfl, hp⟩ := Segment.exists_placeholder hpiece hliteral
  have hmem : .placeholder p ∈ Piece.scan text := by simp [hscan]
  obtain ⟨rest, hfits⟩ := Piece.fits_of_mem_scan hmem
  rw [Segment.ofPlaceholder_eq_ok_iff] at hp
  cases p with
  | positional spec' =>
    subst hp
    cases hspec
    exact hfits
  | named key spec' =>
    subst hp
    cases hspec
    cases spec' with
    | none => exact ⟨fun _ hc => (nomatch hc), by decide, fun _ hdigits => nomatch hdigits⟩
    | some spec' => exact hfits.2
  | value key =>
    subst hp
    cases hspec
  | reference count rules =>
    subst hp
    cases hspec
  | inline body =>
    obtain ⟨plural, -, rfl⟩ := hp
    cases hspec

open Conversion in
/-- A conversion that is found in a text is one of the operator, for one value, if and only if its
digits are ASCII.  Within the limits it then fails for the values for which its letter alone fails,
in the same way, and with the letter `s` for those alone that cannot be written.  With a digit of
another script it fails for every value in the same way: a number is too big, or the digit is what
the fault names.  The failure of a conversion is reported with its value quoted, unless the value
cannot be written. -/
theorem Template.conversion_applies {text : Text} {t : Template} (h : parse text = .ok t)
    {s : Segment} (hs : s ∈ t.segments) {spec : Conversion} (hspec : s.applied? = some spec) :
    (Operator.Takes spec.pattern 1 ↔ spec.IsAscii) ∧
    (spec.IsAscii → spec.WithinLimits → ∀ v,
      (∀ fault, spec.apply v = .error fault ↔ (bare spec.letter).apply v = .error fault) ∧
      (∀ fault, spec.apply v = .error fault → fault.OfValue) ∧
      (spec.letter = .s → ((∃ text, spec.sprintf v = .ok text) ↔ ¬v.TooLong))) ∧
    (¬spec.IsAscii → ∃ fault,
      (fault = .widthTooBig ∨ fault = .precisionTooBig ∨ spec.Blames fault) ∧
      ∀ v, spec.apply v = .error fault) ∧
    ∀ v e, spec.sprintf v = .error e ↔ ∃ fault, spec.apply v = .error fault ∧
      ((∃ quoted, v.quoted? = some quoted ∧ e = .conversion v.kindName quoted spec fault) ∨
        v.TooLong ∧ e = .uncaught .unwritable) := by
  have hwellFormed := wellFormed_of_mem h hs hspec
  refine ⟨hwellFormed.takes_iff, fun hascii hlimits v => ⟨fun fault => ?_, fun fault hfault => ?_,
    fun hletter => ?_⟩, hwellFormed.apply_of_not_ascii, fun v e => sprintf_eq_error_iff⟩
  · rw [hascii.apply_eq_error_iff hlimits,
      (IsAscii.bare spec.letter).apply_eq_error_iff (WithinLimits.bare spec.letter)]
    rfl
  · exact ofValue_of_fault? ((hascii.apply_eq_error_iff hlimits).mp hfault)
  · simp only [sprintf_eq_ok_iff, ← Value.shown?_eq_none_iff]
    rw [hascii.apply_eq_fill hlimits, hletter, fill, shown]
    cases v.shown? <;> simp [Except.map]

/-- A conversion of every value beside one of none. -/
theorem Template.conversion_applies_mixed :
    let text := lit "%-5.2s%\u0663d"
    let first : Conversion := ⟨[.left], lit "5", some (lit "2"), .s⟩
    let second : Conversion := ⟨[], lit "\u0663", none, .d⟩
    parse text = .ok ⟨text, [.positional first, .positional second]⟩ ∧
      Operator.Takes first.pattern 1 ∧
      (∀ v, (∃ text, first.sprintf v = .ok text) ↔ ¬v.TooLong) ∧
      ¬Operator.Takes second.pattern 1 ∧ ∃ fault, ∀ v, second.apply v = .error fault := by
  intro text first second
  have hparse : parse text = .ok ⟨text, [.positional first, .positional second]⟩ := by
    simp only [text]
    cbv
  have hfirst : first.IsAscii := ⟨by decide, by decide⟩
  have hlimits : first.WithinLimits := ⟨by decide, by decide, by decide⟩
  have hsecond : ¬second.IsAscii := fun h => absurd (h.width 0x663 (by decide)) (by decide)
  obtain ⟨htakes, hvalues, -⟩ := conversion_applies hparse (s := .positional first) (by simp) rfl
  obtain ⟨htakes', -, hfails, -⟩ := conversion_applies hparse (s := .positional second) (by simp) rfl
  obtain ⟨fault, -, hfault⟩ := hfails hsecond
  exact ⟨hparse, htakes.mpr hfirst, fun v => (hvalues hfirst hlimits v).2.2 rfl,
    fun h => hsecond (htakes'.mp h), fault, hfault⟩

/-- An Arabic three is found as a width, and no value can be formatted then, not even a text. -/
theorem Template.conversion_of_other_script :
    let text := lit "%\u0663s"
    let spec : Conversion := ⟨[], lit "\u0663", none, .s⟩
    parse text = .ok ⟨text, [.positional spec]⟩ ∧ spec.WithinLimits ∧
      ¬Operator.Takes spec.pattern 1 ∧
      (∀ v, spec.apply v = .error (.unsupportedCharacter 0x663 1)) ∧
      (Engine.usual.format text (.text (lit "abc")) none).1.text =
        .error (.conversion (lit "str") (lit "'abc'") spec (.unsupportedCharacter 0x663 1)) := by
  intro text spec
  have hparse : parse text = .ok ⟨text, [.positional spec]⟩ := by
    simp only [text]
    cbv
  have hwellFormed : spec.WellFormed := wellFormed_of_mem hparse List.mem_cons_self rfl
  have hfails : ∀ v, spec.apply v = .error (.unsupportedCharacter 0x663 1) := fun v => rfl
  refine ⟨hparse, ⟨by decide, by decide, by decide⟩, fun htakes => ?_, hfails, ?_⟩
  · exact absurd ((hwellFormed.takes_iff.mp htakes).width 0x663 (by decide)) (by decide)
  · have husual : Engine.usual.Reachable := .create _ _
    rw [husual.format_of_parse hparse]
    rfl

end Phrasebook
