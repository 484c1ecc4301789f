import Phrasebook.Proofs.Conversion.Operator

/-! What a width does.  A conversion without a width writes a text, or a number as its sign, the
mark of its base and its digits.  With a width it writes the same between blanks, or with zeros
between the mark and the digits, and nothing is cut off. -/

namespace Phrasebook

open Text (lit isAsciiDigit asciiUpper)

/-! ### Signs -/

/-- The sign that a text begins with, if it begins with one. -/
def Text.sign : Text → Text
  | [] => []
  | c :: _ => if c ∈ lit "-+ " then [c] else []

namespace Text

variable {front back digits text : Text}

/-- Digits and points come behind all signs. -/
theorem sign_append_of_le (hfront : ∀ c ∈ front, '.'.toNat ≤ c) (hback : back.sign = []) :
    (front ++ back).sign = [] := by
  cases front with
  | nil => exact hback
  | cons c front =>
    have hc := hfront c List.mem_cons_self
    have hsigns : ∀ s ∈ lit "-+ ", s < '.'.toNat := by decide
    exact if_neg fun hmem => absurd (hsigns c hmem) (Nat.not_lt.mpr hc)

theorem sign_of_le (h : ∀ c ∈ text, '.'.toNat ≤ c) : text.sign = [] := by
  rw [← List.append_nil text]
  exact sign_append_of_le h rfl

theorem sign_asciiUpper (h : text.sign = []) : (asciiUpper text).sign = [] := by
  cases text with
  | nil => rfl
  | cons c text =>
    have hc : c ∉ lit "-+ " := fun hmem => by simp [sign, hmem] at h
    have hcapital : ∀ s ∈ lit "-+ ", s < 'A'.toNat := by decide
    refine if_neg ?_
    show (if 'a'.toNat ≤ c ∧ c ≤ 'z'.toNat then c - 32 else c) ∉ lit "-+ "
    split
    · next hletter =>
      intro hmem
      have := hcapital _ hmem
      simp at *
      omega
    · exact hc

theorem asciiUpper_append (front back : Text) :
    asciiUpper (front ++ back) = asciiUpper front ++ asciiUpper back := List.map_append

end Text

/-! ### Layouts -/

namespace Layout

variable (layout : Layout) (width : Nat) (negative : Bool) (mark digits text : Text)

/-- The layout with another width. -/
def sized : Layout := { layout with width }

@[simp] theorem width_sized : (layout.sized width).width = width := rfl

@[simp] theorem signText_sized :
    (layout.sized width).signText negative = layout.signText negative := rfl

theorem padText_sized_zero : (layout.sized 0).padText text = text := by
  simp [padText, sized]

theorem padNumber_sized_zero : (layout.sized 0).padNumber negative mark digits =
    layout.signText negative ++ mark ++ digits := by
  simp [padNumber, padText_sized_zero]

theorem sign_signText_append (h : text.sign = []) :
    (layout.signText negative ++ text).sign = layout.signText negative := by
  unfold signText
  split
  · rfl
  · split
    · rfl
    · split
      · rfl
      · exact h

theorem asciiUpper_padNumber : asciiUpper (layout.padNumber negative mark digits) =
    layout.padNumber negative (asciiUpper mark) (asciiUpper digits) := by
  have hlength (text : Text) : (asciiUpper text).length = text.length := List.length_map _
  have hsign : asciiUpper (layout.signText negative) = layout.signText negative := by
    unfold signText
    repeat' split
    all_goals rfl
  have hzeros (n : Nat) :
      asciiUpper (List.replicate n '0'.toNat) = List.replicate n '0'.toNat := List.map_replicate
  have hblanks (n : Nat) :
      asciiUpper (List.replicate n ' '.toNat) = List.replicate n ' '.toNat := List.map_replicate
  unfold padNumber padText
  simp only [List.length_append, hlength]
  split
  · simp only [Text.asciiUpper_append, hsign, hzeros]
  · split
    · simp only [Text.asciiUpper_append, hsign, hblanks]
    · simp only [Text.asciiUpper_append, hsign, hblanks]

end Layout

/-! ### Digits -/

namespace Digits

theorem le_of_mem_text (digits : List Nat) : ∀ c ∈ text digits, '.'.toNat ≤ c := by
  intro c hc
  obtain ⟨d, -, rfl⟩ := List.mem_map.mp hc
  unfold character
  split <;> simp <;> omega

theorem le_of_mem_filled (zeros : Nat) (digits : List Nat) :
    ∀ c ∈ List.replicate zeros '0'.toNat ++ text digits, '.'.toNat ≤ c := by
  refine List.forall_mem_append.mpr ⟨fun c hc => ?_, le_of_mem_text digits⟩
  rw [List.eq_of_mem_replicate hc]
  decide

end Digits

namespace Notation

theorem sign_fixed (mantissa : Nat) (exponent : Int) (places : Nat) (point : Bool) :
    (fixed mantissa exponent places point).sign = [] := by
  have hdigits := Digits.le_of_mem_filled
    (places + 1 - (Text.numeral 10 (toPlaces mantissa exponent places)).length)
    (Digits.ofNat 10 (toPlaces mantissa exponent places))
  have hpoint : ∀ c ∈ ['.'.toNat], '.'.toNat ≤ c := by decide
  refine Text.sign_of_le ?_
  unfold fixed withPlaces
  simp only [Text.numeral] at hdigits ⊢
  split
  · split
    · exact List.forall_mem_append.mpr ⟨fun c hc => hdigits c (List.mem_of_mem_take hc), hpoint⟩
    · exact fun c hc => hdigits c (List.mem_of_mem_take hc)
  · exact List.forall_mem_append.mpr ⟨fun c hc => hdigits c (List.mem_of_mem_take hc),
      List.forall_mem_cons.mpr ⟨by decide, fun c hc => hdigits c (List.mem_of_mem_drop hc)⟩⟩

theorem le_of_mem_leadingPoint {digits : List Nat} {point : Bool} :
    ∀ c ∈ leadingPoint digits point, '.'.toNat ≤ c := by
  have hdigits := Digits.le_of_mem_text digits
  unfold leadingPoint
  generalize Digits.text digits = written at hdigits
  split
  · exact fun _ hc => nomatch hc
  · split
    · simpa using hdigits
    · exact hdigits
  · simpa using hdigits

theorem le_of_mem_positional {digits : List Nat} {leading : Int} {point : Bool} :
    ∀ c ∈ positional digits leading point, '.'.toNat ≤ c := by
  have hpoint : ∀ c ∈ ['.'.toNat], '.'.toNat ≤ c := by decide
  unfold positional
  split
  · rw [List.append_assoc]
    exact List.forall_mem_append.mpr ⟨by decide, Digits.le_of_mem_filled _ _⟩
  · have hbehind := Digits.le_of_mem_text (digits.drop (leading.toNat + 1))
    simp only
    generalize Digits.text (digits.drop (leading.toNat + 1)) = behind at hbehind
    split
    · split
      · exact List.forall_mem_append.mpr ⟨Digits.le_of_mem_text _, hpoint⟩
      · exact Digits.le_of_mem_text _
    · exact List.forall_mem_append.mpr ⟨Digits.le_of_mem_text _,
        List.forall_mem_cons.mpr ⟨by decide, hbehind⟩⟩

theorem sign_exponentMark (e : Int) : (exponentMark e).sign = [] := rfl

theorem sign_scientific (mantissa : Nat) (exponent : Int) (places : Nat) (point : Bool) :
    (scientific mantissa exponent places point).sign = [] :=
  Text.sign_append_of_le le_of_mem_leadingPoint (sign_exponentMark _)

theorem sign_general (mantissa : Nat) (exponent : Int) (count : Nat) (point : Bool) :
    (general mantissa exponent count point).sign = [] := by
  unfold general
  simp only
  split
  · exact Text.sign_of_le le_of_mem_positional
  · exact Text.sign_append_of_le le_of_mem_leadingPoint (sign_exponentMark _)

end Notation

namespace Conversion

theorem RealStyle.sign_written (style : RealStyle) (mantissa : Nat) (exponent : Int)
    (precision : Nat) (point : Bool) :
    (style.written mantissa exponent precision point).sign = [] := by
  cases style with
  | fixed =>
    simp only [written]
    split
    · exact Notation.sign_fixed mantissa exponent precision point
    · exact Notation.sign_fixed 0 0 precision point
  | scientific => exact Notation.sign_scientific mantissa exponent _ point
  | general => exact Notation.sign_general mantissa exponent precision point

/-! ### What is laid out -/

/-- What is laid out is a text, whatever the width. -/
def LaysText (layout : Layout) (write : Layout → Except Fault Text) : Prop :=
  ∃ shown, ∀ width, write (layout.sized width) = .ok ((layout.sized width).padText shown)

/-- What is laid out is a number, with the mark if there is to be one, whatever the width. -/
def LaysNumber (layout : Layout) (mark : Text) (write : Layout → Except Fault Text) : Prop :=
  ∃ negative digits, digits.sign = [] ∧ ∀ width, write (layout.sized width) =
    .ok ((layout.sized width).padNumber negative (if layout.alternate then mark else []) digits)

variable {layout : Layout} {mark u : Text}

theorem laysNumber_inStyle (layout : Layout) (style : RealStyle) (upper : Bool) (x : Binary64) :
    LaysNumber layout [] fun layout => .ok (inStyle layout style upper x) := by
  have hcasing (digits : Text) (h : digits.sign = []) :
      (if upper then asciiUpper digits else digits).sign = [] := by
    split
    · exact Text.sign_asciiUpper h
    · exact h
  cases x with
  | nan => exact ⟨false, _, hcasing (lit "nan") rfl, fun width => by simp [inStyle]⟩
  | infinity negative =>
    exact ⟨negative, _, hcasing (lit "inf") rfl, fun width => by simp [inStyle]⟩
  | finite negative mantissa exponent =>
    have hwritten := style.sign_written mantissa exponent (layout.precision.getD 6) layout.alternate
    refine ⟨negative, _, hcasing _ hwritten, fun width => ?_⟩
    rw [ite_self]
    rfl

/-- An integer in a base, with its zeros. -/
def magnitude (layout : Layout) (base : Nat) (n : Int) : Text :=
  let digits := Text.numeral base n.natAbs
  List.replicate (layout.precision.getD 0 - digits.length) '0'.toNat ++ digits

theorem inBase_eq_ok_iff {base : Nat} {n : Int} : inBase layout base mark n = .ok u ↔
    layout.precision.getD 0 ≤ greatestDigits ∧ ¬(base = 10 ∧ Digits.exceedsLimit n.natAbs) ∧
      u = layout.padNumber (n < 0) (if layout.alternate then mark else [])
        (magnitude layout base n) := by
  simp only [inBase]
  constructor
  · intro hok
    split at hok
    · cases hok
    · next hprecision =>
      split at hok
      · cases hok
      · next hlimit =>
        cases hok
        exact ⟨Nat.not_lt.mp hprecision, hlimit, rfl⟩
  · rintro ⟨hprecision, hlimit, rfl⟩
    rw [if_neg (Nat.not_lt.mpr hprecision), if_neg hlimit]
    rfl

theorem laysNumber_inBase {base : Nat} {n : Int} (h : inBase layout base mark n = .ok u) :
    LaysNumber layout mark fun layout => inBase layout base mark n := by
  obtain ⟨hprecision, hlimit, -⟩ := inBase_eq_ok_iff.mp h
  exact ⟨n < 0, magnitude layout base n, Text.sign_of_le (Digits.le_of_mem_filled _ _),
    fun width => inBase_eq_ok_iff.mpr ⟨hprecision, hlimit, rfl⟩⟩

theorem LaysNumber.asciiUpper {write : Layout → Except Fault Text}
    (h : LaysNumber layout mark write) :
    LaysNumber layout (asciiUpper mark) fun layout => (write layout).map Text.asciiUpper := by
  obtain ⟨negative, digits, hdigits, hwrite⟩ := h
  refine ⟨negative, Text.asciiUpper digits, Text.sign_asciiUpper hdigits, fun width => ?_⟩
  simp only [hwrite width, Except.map, Layout.asciiUpper_padNumber]
  split <;> rfl

end Conversion

/-- The mark of the base in which a letter writes. -/
def Letter.mark : Letter → Text
  | .o => lit "0o"
  | .x => lit "0x"
  | .X => lit "0X"
  | _ => []

/-- The mark that the conversion puts before the digits. -/
def Conversion.mark (spec : Conversion) : Text :=
  if spec.flags.contains .alternate then spec.letter.mark else []

namespace Conversion

variable {layout : Layout} {mark u : Text} {v : Value}

theorem laysText_fill {letter : Letter} (hletter : letter = .s ∨ letter = .c)
    (h : fill layout letter v = .ok u) : LaysText layout fun layout => fill layout letter v := by
  rcases hletter with rfl | rfl
  · cases hshown : shown v with
    | error fault => simp [fill, hshown, Except.map] at h
    | ok text =>
      refine ⟨layout.precision.elim text text.take, fun width => ?_⟩
      simp only [fill, hshown]
      rfl
  · cases hcharacter : character v with
    | error fault => simp [fill, hcharacter, Except.map] at h
    | ok c => exact ⟨[c], fun width => by simp [fill, hcharacter, Except.map]⟩

theorem laysNumber_fill {letter : Letter} (hs : letter ≠ .s) (hc : letter ≠ .c)
    (h : fill layout letter v = .ok u) :
    LaysNumber layout letter.mark fun layout => fill layout letter v := by
  have hinteger {base : Nat} {mark u : Text} {read : Except Fault Int}
      (h : read.bind (inBase layout base mark) = .ok u) :
      LaysNumber layout mark fun layout => read.bind (inBase layout base mark) := by
    cases read with
    | error fault => cases h
    | ok n => exact laysNumber_inBase h
  have hreal {style : RealStyle} {upper : Bool}
      (h : (real v).map (inStyle layout style upper) = .ok u) :
      LaysNumber layout [] fun layout => (real v).map (inStyle layout style upper) := by
    cases hread : real v with
    | error fault =>
      rw [hread] at h
      cases h
    | ok x => exact laysNumber_inStyle layout style upper x
  cases letter with
  | d => exact hinteger h
  | i => exact hinteger h
  | u => exact hinteger h
  | o => exact hinteger h
  | x => exact hinteger h
  | X =>
    cases hread : (integer .X v).bind (inBase layout 16 (lit "0x")) with
    | error fault =>
      simp only [fill, hread] at h
      cases h
    | ok lower => exact (hinteger hread).asciiUpper
  | e => exact hreal h
  | E => exact hreal h
  | f => exact hreal h
  | F => exact hreal h
  | g => exact hreal h
  | G => exact hreal h
  | c => exact absurd rfl hc
  | s => exact absurd rfl hs

/-! ### What a width adds -/

variable {spec : Conversion} {w text : Text} {width : Nat}

/-- What a width makes of the text `u` that the conversion writes without one: blanks behind it or
before it, or zeros behind its sign and the mark. -/
inductive Widened (spec : Conversion) (width : Nat) (u : Text) : Text → Prop
  | left : .left ∈ spec.flags →
      Widened spec width u (u ++ List.replicate (width - u.length) ' '.toNat)
  | right : .left ∉ spec.flags → .zero ∉ spec.flags ∨ spec.letter = .s ∨ spec.letter = .c →
      Widened spec width u (List.replicate (width - u.length) ' '.toNat ++ u)
  | filled {sign digits : Text} : .left ∉ spec.flags → .zero ∈ spec.flags → spec.letter ≠ .s →
      spec.letter ≠ .c → u.sign = sign → u = sign ++ spec.mark ++ digits →
      Widened spec width u
        (sign ++ spec.mark ++ List.replicate (width - u.length) '0'.toNat ++ digits)

theorem Widened.length_eq (h : spec.Widened width u text) : text.length = max width u.length := by
  cases h with
  | left => simp; omega
  | right => simp; omega
  | filled _ _ _ _ _ hu =>
    have hlength := congrArg List.length hu
    simp at hlength ⊢
    omega

theorem sign_mark_append {digits : Text} (h : digits.sign = []) :
    (spec.mark ++ digits).sign = [] := by
  refine Text.sign_append_of_le ?_ h
  unfold mark
  split
  · cases spec.letter <;> decide
  · exact fun _ hc => nomatch hc

/-- The layout has the flags of the conversion. -/
structure Flagged (spec : Conversion) (layout : Layout) : Prop where
  left : layout.left = spec.flags.contains .left
  zero : layout.zero = spec.flags.contains .zero
  alternate : layout.alternate = spec.flags.contains .alternate

theorem Flagged.mark_eq (h : spec.Flagged layout) :
    (if layout.alternate then spec.letter.mark else []) = spec.mark := by
  rw [h.alternate]
  rfl

theorem Flagged.widened_padText (hlayout : spec.Flagged layout)
    (h : .left ∉ spec.flags → .zero ∉ spec.flags ∨ spec.letter = .s ∨ spec.letter = .c) :
    spec.Widened width u ((layout.sized width).padText u) := by
  have hleft : (layout.sized width).left = spec.flags.contains .left := hlayout.left
  simp only [Layout.padText, Layout.width_sized, hleft]
  split
  · next hmem => exact .left (List.contains_iff_mem.mp hmem)
  · next hmem =>
    have hright : .left ∉ spec.flags := fun hflag => hmem (List.contains_iff_mem.mpr hflag)
    exact .right hright (h hright)

theorem Flagged.widened_padNumber (hlayout : spec.Flagged layout) (hs : spec.letter ≠ .s)
    (hc : spec.letter ≠ .c) {digits : Text} (hdigits : digits.sign = []) (negative : Bool) :
    spec.Widened width (layout.signText negative ++ spec.mark ++ digits)
      ((layout.sized width).padNumber negative spec.mark digits) := by
  have hsign : (layout.signText negative ++ spec.mark ++ digits).sign =
      layout.signText negative := by
    rw [List.append_assoc]
    exact layout.sign_signText_append negative _ (sign_mark_append hdigits)
  have hcondition : ((layout.sized width).zero && !(layout.sized width).left) = true ↔
      .zero ∈ spec.flags ∧ .left ∉ spec.flags := by
    simp [Layout.sized, hlayout.left, hlayout.zero]
  simp only [Layout.padNumber, Layout.signText_sized, Layout.width_sized]
  split
  · next hfilled =>
    obtain ⟨hmem, hright⟩ := hcondition.mp hfilled
    exact .filled hright hmem hs hc hsign rfl
  · next hblank =>
    -- blanks on the left although zeros are asked for: then the text is to stand there
    refine hlayout.widened_padText fun hright => .inl fun hmem => ?_
    exact hblank (hcondition.mpr ⟨hmem, hright⟩)

theorem LaysText.exists_widened {write : Layout → Except Fault Text} (hlays : LaysText layout write)
    (hlayout : spec.Flagged layout) (htext : spec.letter = .s ∨ spec.letter = .c)
    (h : write (layout.sized 0) = .ok u) (width : Nat) :
    ∃ text, write (layout.sized width) = .ok text ∧ spec.Widened width u text := by
  obtain ⟨shown, hwrite⟩ := hlays
  cases h.symm.trans (hwrite 0)
  rw [Layout.padText_sized_zero]
  exact ⟨_, hwrite width, hlayout.widened_padText fun _ => .inr htext⟩

theorem LaysNumber.exists_widened {write : Layout → Except Fault Text}
    (hlays : LaysNumber layout spec.letter.mark write) (hlayout : spec.Flagged layout)
    (hs : spec.letter ≠ .s) (hc : spec.letter ≠ .c) (h : write (layout.sized 0) = .ok u)
    (width : Nat) :
    ∃ text, write (layout.sized width) = .ok text ∧ spec.Widened width u text := by
  obtain ⟨negative, digits, hdigits, hwrite⟩ := hlays
  rw [hlayout.mark_eq] at hwrite
  cases h.symm.trans (hwrite 0)
  rw [Layout.padNumber_sized_zero]
  exact ⟨_, hwrite width, hlayout.widened_padNumber hs hc hdigits negative⟩

/-- Where the digits of a number stand in the pattern matters only if it cannot be read. -/
theorem readNumber_of_ok {digits : Text} {i greatest n : Nat} {tooBig : Fault}
    (h : Layout.readNumber digits i greatest tooBig = .ok n) (j : Nat) :
    Layout.readNumber digits j greatest tooBig = .ok n := by
  simp only [Layout.readNumber] at h ⊢
  split at h
  · cases h
  · next hle =>
    rw [if_neg hle]
    cases hrest : digits.dropWhile isAsciiDigit with
    | nil =>
      rw [hrest] at h
      exact h
    | cons c rest =>
      rw [hrest] at h
      cases h

/-- The conversion with a width has the same layout but for the width. -/
theorem ofConversion_widened (hw : ∀ c ∈ w, isAsciiDigit c) (hhead : w.head? ≠ some '0'.toNat)
    (hle : Scientific.ofDigits w ≤ Layout.greatestWidth) {layout : Layout}
    (h : Layout.ofConversion { spec with width := [] } = .ok layout) :
    layout.sized 0 = layout ∧ spec.Flagged layout ∧
      Layout.ofConversion { spec with width := w } =
        .ok (layout.sized (Scientific.ofDigits w)) := by
  obtain ⟨flags, width, precision, letter⟩ := spec
  -- a width that began with a zero would set the flag for zeros
  have hsized (number : Option Nat) :
      laidOut ⟨flags, w, precision, letter⟩ (Scientific.ofDigits w) number =
        (laidOut ⟨flags, [], precision, letter⟩ 0 number).sized (Scientific.ofDigits w) := by
    simpa [laidOut, Layout.sized] using fun hzero => absurd hzero hhead
  have hflagged (number : Option Nat) :
      Flagged ⟨flags, width, precision, letter⟩ (laidOut ⟨flags, [], precision, letter⟩ 0 number) :=
    ⟨rfl, by simp [laidOut], rfl⟩
  have hnone : Layout.readNumber [] (widthIndex ⟨flags, [], precision, letter⟩)
      Layout.greatestWidth .widthTooBig = .ok 0 := readNumber_of_ascii (by simp) (Nat.zero_le _) _ _
  rw [ofConversion_eq, hnone] at h
  rw [ofConversion_eq, readNumber_of_ascii hw hle]
  cases precision with
  | none =>
    cases h
    exact ⟨rfl, hflagged none, congrArg Except.ok (hsized none)⟩
  | some digits =>
    simp only [Except.bind] at h ⊢
    cases hread : Layout.readNumber digits (precisionIndex ⟨flags, [], some digits, letter⟩)
        Layout.greatestPrecision .precisionTooBig with
    | error fault =>
      rw [hread] at h
      cases h
    | ok precision =>
      rw [hread] at h
      cases h
      rw [readNumber_of_ok hread]
      exact ⟨rfl, hflagged (some precision), congrArg Except.ok (hsized (some precision))⟩

/-- A width only pads.  What succeeds without a width succeeds with every width, and the text is as
long as the width asks for, or as it was: blanks stand around it, or zeros behind its sign and its
mark, and nothing else is changed. -/
theorem apply_widened (hw : ∀ c ∈ w, isAsciiDigit c) (hhead : w.head? ≠ some '0'.toNat)
    (hle : Scientific.ofDigits w ≤ Layout.greatestWidth)
    (h : { spec with width := [] }.apply v = .ok u) :
    ∃ text, { spec with width := w }.apply v = .ok text ∧
      text.length = max (Scientific.ofDigits w) u.length ∧
      spec.Widened (Scientific.ofDigits w) u text := by
  rw [apply_eq_bind_fill] at h ⊢
  cases hlayout : Layout.ofConversion { spec with width := [] } with
  | error fault =>
    rw [hlayout] at h
    cases h
  | ok layout =>
    obtain ⟨hzero, hflagged, hsized⟩ := ofConversion_widened hw hhead hle hlayout
    rw [hlayout] at h
    rw [hsized]
    simp only [Except.bind] at h ⊢
    obtain ⟨text, hwritten, hwidened⟩ : ∃ text,
        fill (layout.sized (Scientific.ofDigits w)) spec.letter v = .ok text ∧
          spec.Widened (Scientific.ofDigits w) u text := by
      by_cases htext : spec.letter = .s ∨ spec.letter = .c
      · have hlays := laysText_fill htext h
        rw [← hzero] at h
        exact hlays.exists_widened hflagged htext h _
      · obtain ⟨hs, hc⟩ := not_or.mp htext
        have hlays := laysNumber_fill hs hc h
        rw [← hzero] at h
        exact hlays.exists_widened hflagged hs hc h _
    exact ⟨text, hwritten, hwidened.length_eq, hwidened⟩

/-- Zeros between the mark and the digits, of which the precision asks for three. -/
theorem apply_widened_filled :
    let spec : Conversion := ⟨[.plus, .alternate, .zero], [], some (lit "3"), .x⟩
    let u := lit "+0x0ff"
    (∀ c ∈ lit "10", isAsciiDigit c) ∧ (lit "10").head? ≠ some '0'.toNat ∧
      Scientific.ofDigits (lit "10") ≤ Layout.greatestWidth ∧
      { spec with width := [] }.apply (.int 255) = .ok u ∧
      { spec with width := lit "10" }.apply (.int 255) = .ok (lit "+0x00000ff") ∧
      spec.Widened 10 u (lit "+0x00000ff") := by
  intro spec u
  have hu : { spec with width := [] }.apply (.int 255) = .ok u := by
    simp only [spec, u]
    cbv
  have hfilled : { spec with width := lit "10" }.apply (.int 255) = .ok (lit "+0x00000ff") := by
    simp only [spec]
    cbv
  obtain ⟨text, htext, -, hwidened⟩ :=
    apply_widened (w := lit "10") (by decide) (by decide) (by decide) hu
  rw [hfilled] at htext
  cases htext
  exact ⟨by decide, by decide, by decide, hu, hfilled, hwidened⟩

end Conversion

end Phrasebook
