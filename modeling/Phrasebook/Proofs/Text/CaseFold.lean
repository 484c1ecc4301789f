import Phrasebook.Text.CaseFold

/-! Case folding as a normal form.  A text is folded if each of its characters folds to itself.  The
table moves no character to one that it moves again, so that every text folds to a folded text, in
the Turkic way as in the usual one, and a folded text stays as it is. -/

namespace Phrasebook.Text

/-! ### Runs that share no character -/

namespace Shift

variable {run other : Shift} {c : Nat}

/-- The run of the characters to which the run moves its own. -/
def image (run : Shift) : Shift :=
  ⟨(run.first + run.distance).toNat, (run.last + run.distance).toNat, run.step, 0⟩

/-- The character that the run moves to `c`, if there is one. -/
def origin (run : Shift) (c : Nat) : Nat := (c - run.distance).toNat

/-- A run of one character. -/
def single (c : Nat) : Shift := ⟨c, c, 1, 0⟩

/-- The characters of the run are all even or all odd. -/
def keepsParity (run : Shift) : Bool := run.first == run.last || run.step % 2 == 0

/-- The bounds of two runs, or the parity of their characters, show that they share none. -/
def apart (run other : Shift) : Bool :=
  run.last.blt other.first || other.last.blt run.first ||
    run.keepsParity && other.keepsParity && run.first % 2 != other.first % 2

theorem contains_iff : run.contains c ↔
    run.first ≤ c ∧ c ≤ run.last ∧ (c - run.first) % run.step = 0 := by
  simp [contains, and_assoc]

theorem parity_of_contains (hparity : run.keepsParity) (h : run.contains c) :
    c % 2 = run.first % 2 := by
  obtain ⟨hfirst, hlast, hstep⟩ := contains_iff.mp h
  rcases (Bool.or_eq_true _ _).mp hparity with hone | heven
  · have heq : run.first = run.last := eq_of_beq hone
    rw [show c = run.first by omega]
  · have htwo : 2 ∣ c - run.first :=
      Nat.dvd_trans (Nat.dvd_of_mod_eq_zero (eq_of_beq heven)) (Nat.dvd_of_mod_eq_zero hstep)
    omega

theorem not_contains_of_apart (h : run.apart other) (hc : run.contains c) :
    other.contains c = false := by
  refine Bool.eq_false_iff.mpr fun hother => ?_
  obtain ⟨hfirst, hlast, -⟩ := contains_iff.mp hc
  obtain ⟨hfirst', hlast', -⟩ := contains_iff.mp hother
  simp only [apart, Bool.or_eq_true, Bool.and_eq_true, Nat.blt_eq, bne_iff_ne] at h
  rcases h with (hbefore | hbehind) | ⟨⟨hparity, hparity'⟩, hne⟩
  · omega
  · omega
  · exact hne ((parity_of_contains hparity hc).symm.trans (parity_of_contains hparity' hother))

theorem image_contains (hnonneg : 0 ≤ run.first + run.distance) (h : run.contains c) :
    run.image.contains (c + run.distance).toNat := by
  obtain ⟨hfirst, hlast, hstep⟩ := contains_iff.mp h
  have hgap : (c + run.distance).toNat - run.image.first = c - run.first := by
    simp only [image]
    omega
  refine contains_iff.mpr ⟨?_, ?_, ?_⟩
  · simp only [image]
    omega
  · simp only [image]
    omega
  · rw [hgap]
    exact hstep

/-- A character moves by a run that it is in, or it is in none and stays. -/
theorem apply_cases (runs : List Shift) (c : Nat) :
    (∃ run ∈ runs, run.contains c ∧ apply runs c = (c + run.distance).toNat) ∨
      (∀ run ∈ runs, run.contains c = false) ∧ apply runs c = c := by
  unfold apply
  split
  · next run hfound =>
    have hcontains := List.find?_some (p := fun run : Shift => run.contains c) hfound
    exact .inl ⟨run, List.mem_of_find?_eq_some hfound, hcontains, rfl⟩
  · next hnone =>
    refine .inr ⟨fun run hrun => ?_, rfl⟩
    exact Bool.eq_false_iff.mpr (List.find?_eq_none.mp hnone run hrun)

theorem apply_of_forall {runs : List Shift} (h : ∀ run ∈ runs, run.contains c = false) :
    apply runs c = c := by
  rcases apply_cases runs c with ⟨run, hrun, hc, -⟩ | ⟨-, heq⟩
  · rw [h run hrun] at hc
    cases hc
  · exact heq

end Shift

/-! ### Characters that fold to themselves -/

/-- Each character of the text folds to itself. -/
def IsFolded (text : Text) : Prop := ∀ c ∈ text, foldCharacter c = [c]

instance : DecidablePred IsFolded := fun text =>
  inferInstanceAs (Decidable (∀ c ∈ text, foldCharacter c = [c]))

theorem foldCharacter_cases (c : Nat) :
    (c, foldCharacter c) ∈ foldExpansions ∨
      (∀ row ∈ foldExpansions, row.1 ≠ c) ∧ foldCharacter c = [Shift.apply foldShifts c] := by
  unfold foldCharacter
  split
  · next text hlookup =>
    obtain ⟨front, back, htable, -⟩ := List.lookup_eq_some_iff.mp hlookup
    exact .inl (by rw [htable]; simp)
  · next hnone =>
    refine .inr ⟨fun row hrow heq => ?_, rfl⟩
    exact absurd heq.symm (by simpa using List.lookup_eq_none_iff.mp hnone row hrow)

theorem foldCharacter_of_forall {c : Nat} (hrows : ∀ row ∈ foldExpansions, row.1 ≠ c)
    (hruns : ∀ run ∈ foldShifts, run.contains c = false) : foldCharacter c = [c] := by
  rcases foldCharacter_cases c with hrow | ⟨-, heq⟩
  · exact absurd rfl (hrows _ hrow)
  · rw [heq, Shift.apply_of_forall hruns]

/-! ### The table -/

theorem images_apart : ∀ run ∈ foldShifts, 0 ≤ run.first + run.distance ∧
    (∀ other ∈ foldShifts, run.image.apart other) ∧
    ∀ row ∈ foldExpansions, run.image.apart (.single row.1) := by
  have hall : (foldShifts.all fun run => decide (0 ≤ run.first + run.distance) &&
      foldShifts.all run.image.apart &&
      foldExpansions.all fun row => run.image.apart (.single row.1)) = true := by
    decide +kernel
  simpa only [List.all_eq_true, Bool.and_eq_true, decide_eq_true_eq, and_assoc] using hall

theorem isFolded_expansions : ∀ row ∈ foldExpansions, IsFolded row.2 := by
  have hall : (foldExpansions.all fun row => decide (IsFolded row.2)) = true := by
    decide +kernel
  simpa only [List.all_eq_true, decide_eq_true_eq] using hall

/-- What a character folds to is folded. -/
theorem isFolded_foldCharacter (c : Nat) : IsFolded (foldCharacter c) := by
  rcases foldCharacter_cases c with hrow | ⟨hrows, heq⟩
  · exact isFolded_expansions _ hrow
  · rw [heq]
    refine List.forall_mem_singleton.mpr ?_
    rcases Shift.apply_cases foldShifts c with ⟨run, hrun, hc, hmoved⟩ | ⟨hruns, hstays⟩
    · obtain ⟨hnonneg, hshifts, hexpansions⟩ := images_apart run hrun
      have himage := Shift.image_contains hnonneg hc
      rw [hmoved]
      refine foldCharacter_of_forall (fun row hrow heq => ?_) fun other hother =>
        Shift.not_contains_of_apart (hshifts other hother) himage
      have hnot := Shift.not_contains_of_apart (hexpansions row hrow) himage
      simp [heq, Shift.single, Shift.contains] at hnot
    · rw [hstays]
      exact foldCharacter_of_forall hrows hruns

/-- No run moves a character to the dotless letter, and none but the capital to the letter `i`. -/
theorem origins_of_letters : ∀ run ∈ foldShifts, run.contains (run.origin 0x131) = false ∧
    (run.contains (run.origin 'i'.toNat) → run.origin 'i'.toNat = 'I'.toNat) := by
  have hall : (foldShifts.all fun run => !run.contains (run.origin 0x131) &&
      decide (run.contains (run.origin 'i'.toNat) → run.origin 'i'.toNat = 'I'.toNat)) = true := by
    decide +kernel
  simpa only [List.all_eq_true, Bool.and_eq_true, decide_eq_true_eq, Bool.not_eq_true'] using hall

theorem one_lt_length_expansions : ∀ row ∈ foldExpansions, 1 < row.2.length := by
  decide +kernel

/-- Besides the letter itself, only what a run moves to it folds to a single letter. -/
theorem eq_of_foldCharacter {c e : Nat} (he : e ≠ 0) (h : foldCharacter c = [e]) :
    c = e ∨ ∃ run ∈ foldShifts, run.contains c ∧ c = run.origin e := by
  rcases foldCharacter_cases c with hrow | ⟨-, heq⟩
  · have hlength := one_lt_length_expansions _ hrow
    rw [h, List.length_singleton] at hlength
    exact absurd hlength (Nat.lt_irrefl 1)
  · rw [heq, List.singleton_inj] at h
    rcases Shift.apply_cases foldShifts c with ⟨run, hrun, hc, hmoved⟩ | ⟨-, hstays⟩
    · refine .inr ⟨run, hrun, hc, ?_⟩
      rw [h] at hmoved
      unfold Shift.origin
      omega
    · exact .inl (hstays.symm.trans h)

theorem foldCharacter_eq_dotless_iff {c : Nat} : foldCharacter c = [0x131] ↔ c = 0x131 := by
  constructor
  · intro h
    rcases eq_of_foldCharacter (by decide) h with heq | ⟨run, hrun, hc, heq⟩
    · exact heq
    · rw [heq, (origins_of_letters run hrun).1] at hc
      cases hc
  · rintro rfl
    decide +kernel

theorem foldCharacter_eq_dotted_iff {c : Nat} :
    foldCharacter c = ['i'.toNat] ↔ c = 'I'.toNat ∨ c = 'i'.toNat := by
  constructor
  · intro h
    rcases eq_of_foldCharacter (by decide) h with heq | ⟨run, hrun, hc, heq⟩
    · exact .inr heq
    · rw [heq] at hc
      exact .inl (heq.trans ((origins_of_letters run hrun).2 hc))
  · rintro (rfl | rfl)
    · decide +kernel
    · decide +kernel

/-! ### Texts -/

variable {turkic : Bool} {text text' : Text}

theorem turkicLetter_cases (c : Nat) :
    c = 'I'.toNat ∧ turkicLetter c = 0x131 ∨ c = 0x130 ∧ turkicLetter c = 'i'.toNat ∨
      c ≠ 'I'.toNat ∧ c ≠ 0x130 ∧ turkicLetter c = c := by
  unfold turkicLetter
  split
  · next hdotless => exact .inl ⟨hdotless, rfl⟩
  · next hdotless =>
    split
    · next hdotted => exact .inr (.inl ⟨hdotted, rfl⟩)
    · next hdotted => exact .inr (.inr ⟨hdotless, hdotted, rfl⟩)

theorem turkicLetter_of_ne {c : Nat} (hdotless : c ≠ 'I'.toNat) (hdotted : c ≠ 0x130) :
    turkicLetter c = c := by
  rcases turkicLetter_cases c with ⟨h, -⟩ | ⟨h, -⟩ | ⟨-, -, heq⟩
  · exact absurd h hdotless
  · exact absurd h hdotted
  · exact heq

theorem turkicLetter_eq_dotless_iff {c : Nat} :
    turkicLetter c = 0x131 ↔ c = 'I'.toNat ∨ c = 0x131 := by
  rcases turkicLetter_cases c with ⟨rfl, heq⟩ | ⟨rfl, heq⟩ | ⟨hdotless, -, heq⟩
  · decide
  · decide
  · simp only [heq, hdotless, false_or]

theorem turkicLetter_eq_dotted_iff {c : Nat} :
    turkicLetter c = 'I'.toNat ∨ turkicLetter c = 'i'.toNat ↔ c = 0x130 ∨ c = 'i'.toNat := by
  rcases turkicLetter_cases c with ⟨rfl, heq⟩ | ⟨rfl, heq⟩ | ⟨hdotless, hdotted, heq⟩
  · decide
  · decide
  · simp only [heq, hdotless, hdotted]

/-- Neither of the capitals that are told apart folds to itself. -/
theorem turkicLetter_of_folded {c : Nat} (h : foldCharacter c = [c]) : turkicLetter c = c := by
  refine turkicLetter_of_ne ?_ ?_
  · rintro rfl
    exact absurd h (by decide +kernel)
  · rintro rfl
    exact absurd h (by decide +kernel)

theorem caseFold_singleton (turkic : Bool) (c : Nat) :
    caseFold turkic [c] = foldCharacter (if turkic then turkicLetter c else c) := by
  cases turkic with
  | false => exact List.append_nil _
  | true => exact List.append_nil _

theorem caseFold_append (turkic : Bool) (text text' : Text) :
    caseFold turkic (text ++ text') = caseFold turkic text ++ caseFold turkic text' := by
  cases turkic with
  | false => exact List.flatMap_append
  | true =>
    simp only [caseFold, if_true, List.map_append, List.flatMap_append]

theorem caseFold_cons (turkic : Bool) (c : Nat) (text : Text) :
    caseFold turkic (c :: text) = caseFold turkic [c] ++ caseFold turkic text :=
  caseFold_append turkic [c] text

theorem isFolded_caseFold (turkic : Bool) (text : Text) : IsFolded (caseFold turkic text) := by
  induction text with
  | nil => cases turkic <;> exact List.forall_mem_nil _
  | cons c text ih =>
    rw [caseFold_cons, caseFold_singleton]
    exact List.forall_mem_append.mpr ⟨isFolded_foldCharacter _, ih⟩

theorem IsFolded.caseFold_eq (h : IsFolded text) (turkic : Bool) : caseFold turkic text = text := by
  induction text with
  | nil => cases turkic <;> rfl
  | cons c text ih =>
    obtain ⟨hc, htext⟩ := List.forall_mem_cons.mp h
    have hletter : (if turkic then turkicLetter c else c) = c := by
      rw [turkicLetter_of_folded hc, ite_self]
    rw [caseFold_cons, caseFold_singleton, hletter, hc, ih htext, List.singleton_append]

theorem caseFold_turkic_eq (hdotless : 'I'.toNat ∉ text) (hdotted : 0x130 ∉ text) :
    caseFold true text = caseFold false text := by
  have hmap : text.map turkicLetter = text := by
    refine (List.map_congr_left fun c hc => ?_).trans (List.map_id text)
    exact turkicLetter_of_ne (ne_of_mem_of_not_mem hc hdotless) (ne_of_mem_of_not_mem hc hdotted)
  simp only [caseFold, if_true, hmap, Bool.false_eq_true, if_false]

/-- Two letters match, whatever stands around them, if they fold to the same. -/
theorem caseFold_around_eq_iff {c d : Nat} :
    caseFold turkic (text ++ c :: text') = caseFold turkic (text ++ d :: text') ↔
      caseFold turkic [c] = caseFold turkic [d] := by
  rw [caseFold_append, caseFold_append, caseFold_cons, caseFold_cons turkic d,
    List.append_cancel_left_eq, List.append_cancel_right_eq]

/-- Case folding goes character by character and is done after one time, in the Turkic way too, and
what is folded in the Turkic way is folded.  The two ways differ on the capitals without and with a
dot only: in the Turkic way the one matches the dotless letter and the other the letter with a dot,
and nothing else matches either of them. -/
theorem caseFold_is_normal (turkic : Bool) (text text' : Text) :
    caseFold turkic (text ++ text') = caseFold turkic text ++ caseFold turkic text' ∧
    caseFold turkic (caseFold turkic text) = caseFold turkic text ∧
    caseFold false (caseFold true text) = caseFold true text ∧
    ('I'.toNat ∉ text → 0x130 ∉ text → caseFold true text = caseFold false text) ∧
    caseFold true ['I'.toNat] = [0x131] ∧ caseFold true [0x130] = ['i'.toNat] ∧
    (∀ c, caseFold true (text ++ c :: text') = caseFold true (text ++ 0x131 :: text') ↔
      c = 'I'.toNat ∨ c = 0x131) ∧
    ∀ c, caseFold true (text ++ c :: text') = caseFold true (text ++ 'i'.toNat :: text') ↔
      c = 0x130 ∨ c = 'i'.toNat := by
  have hdotless : caseFold true [0x131] = [0x131] := by decide +kernel
  have hdotted : caseFold true ['i'.toNat] = ['i'.toNat] := by decide +kernel
  refine ⟨caseFold_append turkic text text', (isFolded_caseFold turkic text).caseFold_eq turkic,
    (isFolded_caseFold true text).caseFold_eq false, caseFold_turkic_eq, by decide +kernel,
    by decide +kernel, fun c => ?_, fun c => ?_⟩
  · rw [caseFold_around_eq_iff, hdotless, caseFold_singleton, if_pos rfl,
      foldCharacter_eq_dotless_iff, turkicLetter_eq_dotless_iff]
  · rw [caseFold_around_eq_iff, hdotted, caseFold_singleton, if_pos rfl,
      foldCharacter_eq_dotted_iff, turkicLetter_eq_dotted_iff]

/-- A street without the letters that are told apart, and a river with one of them. -/
theorem caseFold_is_normal_street :
    let street := lit "STRAßE"
    let river := lit "IRMAK"
    'I'.toNat ∉ street ∧ 0x130 ∉ street ∧ caseFold true street = caseFold false street ∧
      caseFold true street = lit "strasse" ∧ caseFold true river ≠ caseFold false river ∧
      caseFold true (street ++ river) = caseFold true street ++ caseFold true river ∧
      caseFold true (caseFold true (street ++ river)) = caseFold true (street ++ river) ∧
      caseFold true (street ++ 'I'.toNat :: river) = caseFold true (street ++ 0x131 :: river) ∧
      caseFold true (street ++ 'I'.toNat :: river) ≠
        caseFold true (street ++ 'i'.toNat :: river) := by
  intro street river
  obtain ⟨happend, -, -, hsame, -, -, hdotless, hdotted⟩ := caseFold_is_normal true street river
  have hstable := (caseFold_is_normal true (street ++ river) []).2.1
  have hno : 'I'.toNat ∉ street := by decide
  have hno' : 0x130 ∉ street := by decide
  exact ⟨hno, hno', hsame hno hno', by decide +kernel, by decide +kernel, happend, hstable,
    (hdotless 'I'.toNat).mpr (.inl rfl), fun heq => absurd ((hdotted 'I'.toNat).mp heq) (by decide)⟩

end Phrasebook.Text
