import Phrasebook.Proofs.Conversion.Split
import Phrasebook.Proofs.Template.Placeholder

/-! The four forms of placeholders, each with a matcher of its own.  At a percent sign one of them
matches at most, so that it does not matter which is tried first, and what it matches and keeps is
the placeholder that is read there in one pass. -/

namespace Phrasebook

open Text (lit isWord)

namespace Placeholder

/-- The forms in which placeholders are written. -/
inductive Kind where
  | inline
  | named
  | braced
  | positional
  deriving DecidableEq

def kind : Placeholder → Kind
  | .positional _ => .positional
  | .named _ _ => .named
  | .value _ => .braced
  | .reference _ _ => .braced
  | .inline _ => .inline

/-- What is kept of a placeholder: nothing of a conversion that is not written. -/
def parts : Placeholder → List (Part × Text)
  | .positional spec => spec.parts
  | .named key spec => (.key, key) :: spec.elim [] Conversion.parts
  | .value key => [(.key, key)]
  | .reference count rules => [(.key, count), (.rules, rules)]
  | .inline body => [(.body, body)]

/-- The way to read a placeholder before `rest`. -/
def way (p : Placeholder) (rest : Text) : Way Part := ⟨p.parts, p.written, rest⟩

theorem fits_named_none {word rest : Text} (hword : IsKey word) (h : Conversion.read? rest = none) :
    (named word none).Fits rest := by
  refine ⟨hword, fun spec rest' hspec htext => ?_⟩
  rw [Conversion.read?_eq_some_iff.mpr ⟨hspec, htext⟩] at h
  cases h

namespace Kind

def mark (c : Char) : Capture Part := .plain (.one (· == c.toNat))

def key (name : Part) : Capture Part := .kept name (.oneOrMore isWord)

def namedCapture : Capture Part :=
  .both (mark '%') <| .both (mark '<') <| .both (key .key) <| .both (mark '>') <|
    .optional Conversion.capture

def bracedCapture : Capture Part :=
  .both (mark '%') <| .both (mark '\x7b') <| .both (key .key) <|
    .both (.optional (.both (mark ':') (key .rules))) (mark '\x7d')

def positionalCapture : Capture Part := .both (mark '%') Conversion.capture

/-- Braces and their content between angle brackets, which no pattern can read. -/
def inlineWay? (text : Text) : Option (Way Part) :=
  match Text.after? (lit "%<") text with
  | none => none
  | some text =>
    if text.head? = some '{'.toNat then
      match Braces.span? text with
      | some (body, c :: rest) =>
        if c = '>'.toNat then some ⟨[(.body, body)], lit "%<" ++ body ++ lit ">", rest⟩ else none
      | _ => none
    else none

/-- The ways to read a placeholder of a form, in the order in which they are tried. -/
def ways : Kind → Text → List (Way Part)
  | inline, text => (inlineWay? text).toList
  | named, text => namedCapture.ways text
  | braced, text => bracedCapture.ways text
  | positional, text => positionalCapture.ways text

/-- The way that is found. -/
def find? (kind : Kind) (text : Text) : Option (Way Part) := (kind.ways text).head?

/-! ### Marks and keys -/

variable {text matched rest : Text} {name : Part} {found : Way Part}

theorem first?_mark (c : Char) (rest : Text) :
    (mark c).first? (c.toNat :: rest) = some ⟨[], [c.toNat], rest⟩ :=
  Capture.first?_plain (Pattern.first?_one (beq_self_eq_true _))

theorem first?_key {word : Text} (h : IsKey word) {c : Nat} (hc : isWord c = false) (rest : Text) :
    (key name).first? (word ++ c :: rest) = some ⟨[(name, word)], word, c :: rest⟩ := by
  obtain ⟨d, word, rfl⟩ := List.exists_cons_of_ne_nil h.1
  obtain ⟨hd, hword⟩ := List.forall_mem_cons.mp h.2
  exact Capture.first?_kept (Pattern.first?_oneOrMore hd hword (Text.stops_cons_iff.mpr hc))

variable {back : Capture Part}

theorem of_mem_mark {c : Char} (h : found ∈ (mark c).ways text) :
    found = ⟨[], [c.toNat], found.rest⟩ ∧ text = c.toNat :: found.rest := by
  obtain ⟨hmem, hparts⟩ := Capture.mem_ways_plain h
  obtain ⟨d, hmatched, htext, hd⟩ := Pattern.mem_ways_one hmem
  have heq : d = c.toNat := eq_of_beq hd
  obtain ⟨parts, matched, rest⟩ := found
  dsimp only at hparts hmatched htext
  rw [hparts, hmatched, heq]
  exact ⟨rfl, by rw [htext, heq]⟩

theorem of_mem_behind_mark {c : Char} (h : found ∈ (Capture.both (mark c) back).ways text) :
    ∃ behind, ∃ more ∈ back.ways behind, text = c.toNat :: behind ∧
      found = ⟨more.parts, c.toNat :: more.matched, more.rest⟩ := by
  obtain ⟨first, hfirst, more, hmore, rfl⟩ := Capture.mem_ways_both h
  obtain ⟨heq, htext⟩ := of_mem_mark hfirst
  refine ⟨first.rest, more, hmore, htext, ?_⟩
  rw [heq]
  rfl

theorem of_mem_behind_key (h : found ∈ (Capture.both (key name) back).ways text) :
    ∃ word behind, ∃ more ∈ back.ways behind, IsKey word ∧ text = word ++ behind ∧
      found = ⟨(name, word) :: more.parts, word ++ more.matched, more.rest⟩ := by
  obtain ⟨first, hfirst, more, hmore, rfl⟩ := Capture.mem_ways_both h
  obtain ⟨hmem, hparts⟩ := Capture.mem_ways_kept hfirst
  obtain ⟨hne, hword, htext⟩ := Pattern.mem_ways_oneOrMore hmem
  refine ⟨first.matched, first.rest, more, hmore, ⟨hne, hword⟩, htext, ?_⟩
  rw [hparts]
  rfl

/-! ### What is read is found -/

theorem inlineWay?_written {body : Text} (h : Braces.Span body) (rest : Text) :
    inlineWay? (lit "%<" ++ (body ++ '>'.toNat :: rest)) =
      some ⟨[(.body, body)], lit "%<" ++ body ++ lit ">", rest⟩ := by
  have hopen : (body ++ '>'.toNat :: rest).head? = some '{'.toNat := by
    obtain ⟨inner, -, rfl⟩ := h
    rfl
  have hlead : Text.after? (lit "%<") (lit "%<" ++ (body ++ '>'.toNat :: rest)) =
      some (body ++ '>'.toNat :: rest) := Text.after?_eq_some_iff.mpr rfl
  unfold inlineWay?
  simp only [hlead, if_pos hopen, Braces.span?_append h]
  rfl

theorem first?_conversion {word : Text} {spec : Option Conversion}
    (h : (Placeholder.named word spec).Fits rest) :
    (Capture.optional Conversion.capture).first? (spec.elim [] Conversion.written ++ rest) =
      some ⟨spec.elim [] Conversion.parts, spec.elim [] Conversion.written, rest⟩ := by
  cases spec with
  | some spec => exact Capture.first?_optional (Conversion.first?_capture h.2 rest)
  | none =>
    refine Capture.first?_optional_of_nil (Conversion.ways_capture_eq_nil ?_)
    refine Option.eq_none_iff_forall_ne_some.mpr fun found hread => ?_
    obtain ⟨hspec, htext⟩ := Conversion.read?_eq_some_iff.mp hread
    exact h.2 found.1 found.2 hspec htext

theorem first?_rules {word : Text} (h : IsKey word) (rest : Text) :
    (Capture.optional (.both (mark ':') (key .rules))).first?
        (':'.toNat :: (word ++ '}'.toNat :: rest)) =
      some ⟨[(.rules, word)], ':'.toNat :: word, '}'.toNat :: rest⟩ :=
  Capture.first?_optional (Capture.first?_both (first?_mark ':' _) (first?_key h (by decide) rest))

theorem first?_no_rules (rest : Text) :
    (Capture.optional (.both (mark ':') (key .rules))).first? ('}'.toNat :: rest) =
      some ⟨[], [], '}'.toNat :: rest⟩ := by
  refine Capture.first?_optional_of_nil (List.eq_nil_iff_forall_not_mem.mpr fun found hfound => ?_)
  obtain ⟨colon, hcolon, -⟩ := Capture.mem_ways_both hfound
  exact absurd (List.cons.inj (of_mem_mark hcolon).2).1 (by decide)

/-- What is written is what its form finds, with all that it keeps. -/
theorem find?_written {p : Placeholder} (h : p.Fits rest) :
    p.kind.find? (p.written ++ rest) = some (p.way rest) := by
  cases p with
  | positional spec =>
    exact Capture.first?_both (first?_mark '%' _) (Conversion.first?_capture h rest)
  | named word spec =>
    have hword : IsKey word := by
      cases spec with
      | none => exact h.1
      | some spec => exact h.1
    have htext : (Placeholder.named word spec).written ++ rest = '%'.toNat :: '<'.toNat ::
        (word ++ '>'.toNat :: (spec.elim [] Conversion.written ++ rest)) := by
      simp only [written, form, List.cons_append, List.append_assoc]
    rw [htext]
    exact Capture.first?_both (first?_mark '%' _) <| Capture.first?_both (first?_mark '<' _) <|
      Capture.first?_both (first?_key hword (by decide) _) <|
      Capture.first?_both (first?_mark '>' _) (first?_conversion h)
  | value word =>
    have htext : (Placeholder.value word).written ++ rest =
        '%'.toNat :: '{'.toNat :: (word ++ '}'.toNat :: rest) := by
      simp only [written, form, List.cons_append, List.append_assoc, List.nil_append]
    rw [htext]
    exact Capture.first?_both (first?_mark '%' _) <| Capture.first?_both (first?_mark '{' _) <|
      Capture.first?_both (first?_key h (by decide) _) <|
      Capture.first?_both (first?_no_rules rest) (first?_mark '}' rest)
  | reference count rules =>
    have htext : (Placeholder.reference count rules).written ++ rest = '%'.toNat :: '{'.toNat ::
        (count ++ ':'.toNat :: (rules ++ '}'.toNat :: rest)) := by
      simp only [written, form, List.cons_append, List.append_assoc, List.nil_append]
    rw [htext]
    exact Capture.first?_both (first?_mark '%' _) <| Capture.first?_both (first?_mark '{' _) <|
      Capture.first?_both (first?_key h.1 (by decide) _) <|
      Capture.first?_both (first?_rules h.2 rest) (first?_mark '}' rest)
  | inline body =>
    have htext : (Placeholder.inline body).written ++ rest =
        lit "%<" ++ (body ++ '>'.toNat :: rest) := by
      simp only [written, form, List.cons_append, List.append_assoc, List.nil_append]
      rfl
    have hfound := congrArg (fun found => found.toList.head?) (inlineWay?_written h rest)
    rw [htext]
    exact hfound

/-! ### What is tried is read -/

/-- The way spans the placeholder, or it leaves out the conversion that is written behind a key. -/
def Spans (found : Way Part) (p : Placeholder) (rest : Text) : Prop :=
  found.matched = p.written ∧ found.rest = rest ∨
    ∃ word spec, p = .named word (some spec) ∧
      found = (Placeholder.named word none).way (spec.written ++ rest)

/-- The placeholder that is read in one pass is of the form, and the way spans it. -/
def Reads (kind : Kind) (text : Text) (found : Way Part) : Prop :=
  ∃ p rest, read? text = some (p, rest) ∧ p.kind = kind ∧ Spans found p rest

theorem reads_positional (h : found ∈ positionalCapture.ways ('%'.toNat :: text)) :
    Reads positional text found := by
  obtain ⟨behind, more, hmore, heq, rfl⟩ := of_mem_behind_mark h
  obtain ⟨-, rfl⟩ := List.cons.inj heq
  obtain ⟨spec, hread, hmatched⟩ := Conversion.read?_of_mem_ways hmore
  refine ⟨.positional spec, more.rest,
    read?_eq_some_iff.mpr (Conversion.read?_eq_some_iff.mp hread), rfl, .inl ⟨?_, rfl⟩⟩
  rw [hmatched]
  rfl

theorem reads_named (h : found ∈ namedCapture.ways ('%'.toNat :: text)) :
    Reads named text found := by
  obtain ⟨_, _, hangle, heq, rfl⟩ := of_mem_behind_mark h
  obtain ⟨-, rfl⟩ := List.cons.inj heq
  obtain ⟨_, _, hkey, rfl, rfl⟩ := of_mem_behind_mark hangle
  obtain ⟨word, _, _, hclose, hword, rfl, rfl⟩ := of_mem_behind_key hkey
  obtain ⟨behind, more, hmore, rfl, rfl⟩ := of_mem_behind_mark hclose
  rcases Capture.mem_ways_optional hmore with htaken | rfl
  · obtain ⟨spec, hread, hmatched⟩ := Conversion.read?_of_mem_ways htaken
    obtain ⟨hspec, rfl⟩ := Conversion.read?_eq_some_iff.mp hread
    refine ⟨.named word (some spec), more.rest, read?_eq_some_iff.mpr ⟨⟨hword, hspec⟩, ?_⟩, rfl,
      .inl ⟨?_, rfl⟩⟩
    · simp [form]
    · simp [written, form, hmatched]
  · -- no conversion is taken: either none follows, or it is what the pattern would try last
    cases hread : Conversion.read? behind with
    | none =>
      refine ⟨.named word none, behind, read?_eq_some_iff.mpr ⟨fits_named_none hword hread, ?_⟩, rfl,
        .inl ⟨rfl, rfl⟩⟩
      simp [form]
    | some read =>
      obtain ⟨spec, rest⟩ := read
      obtain ⟨hspec, rfl⟩ := Conversion.read?_eq_some_iff.mp hread
      refine ⟨.named word (some spec), rest, read?_eq_some_iff.mpr ⟨⟨hword, hspec⟩, ?_⟩, rfl,
        .inr ⟨word, spec, rfl, rfl⟩⟩
      simp [form]

theorem reads_braced (h : found ∈ bracedCapture.ways ('%'.toNat :: text)) :
    Reads braced text found := by
  obtain ⟨_, _, hbrace, heq, rfl⟩ := of_mem_behind_mark h
  obtain ⟨-, rfl⟩ := List.cons.inj heq
  obtain ⟨_, _, hkey, rfl, rfl⟩ := of_mem_behind_mark hbrace
  obtain ⟨word, behind, _, hmore, hword, rfl, rfl⟩ := of_mem_behind_key hkey
  obtain ⟨rules, hrules, close, hclose, rfl⟩ := Capture.mem_ways_both hmore
  obtain ⟨hclosed, hbehind⟩ := of_mem_mark hclose
  rw [hclosed]
  rcases Capture.mem_ways_optional hrules with htaken | rfl
  · obtain ⟨_, more, hcolon, rfl, rfl⟩ := of_mem_behind_mark htaken
    obtain ⟨hmem, -⟩ := Capture.mem_ways_kept hcolon
    obtain ⟨hne, hrulesWord, rfl⟩ := Pattern.mem_ways_oneOrMore hmem
    dsimp only at hbehind
    rw [hbehind]
    refine ⟨.reference word more.matched, close.rest,
      read?_eq_some_iff.mpr ⟨⟨hword, hne, hrulesWord⟩, ?_⟩, rfl, .inl ⟨?_, rfl⟩⟩
    · simp [form]
    · simp [written, form]
  · dsimp only at hbehind
    subst hbehind
    refine ⟨.value word, close.rest, read?_eq_some_iff.mpr ⟨hword, ?_⟩, rfl, .inl ⟨?_, rfl⟩⟩
    · simp [form]
    · simp [written, form]

theorem reads_inline (h : found ∈ (inlineWay? ('%'.toNat :: text)).toList) :
    Reads inline text found := by
  have hfound := Option.mem_toList.mp h
  unfold inlineWay? at hfound
  split at hfound
  · cases hfound
  · next behind hlead =>
    have htext := Text.after?_eq_some_iff.mp hlead
    split at hfound
    · next hopen =>
      split at hfound
      · next body c rest hspan =>
        split at hfound
        · next hclose =>
          cases hfound
          obtain ⟨hbody, hbehind⟩ := (Braces.span?_eq_some_iff hopen).mp hspan
          refine ⟨.inline body, rest, read?_eq_some_iff.mpr ⟨hbody, ?_⟩, rfl, .inl ⟨?_, rfl⟩⟩
          · rw [hbehind, hclose] at htext
            simpa [form, lit] using htext
          · simp [written, form, lit]
        · cases hfound
      · cases hfound
    · cases hfound

theorem reads_of_mem_ways {kind : Kind} (h : found ∈ kind.ways ('%'.toNat :: text)) :
    kind.Reads text found := by
  cases kind with
  | inline => exact reads_inline h
  | named => exact reads_named h
  | braced => exact reads_braced h
  | positional => exact reads_positional h

/-! ### The forms together -/

theorem find?_of_read? {p : Placeholder} (h : read? text = some (p, rest)) :
    p.kind.find? ('%'.toNat :: text) = some (p.way rest) := by
  obtain ⟨hfits, rfl⟩ := read?_eq_some_iff.mp h
  exact find?_written hfits

/-- A form finds what is read in one pass if that is of the form, and nothing else. -/
theorem find?_eq_some_iff {kind : Kind} : kind.find? ('%'.toNat :: text) = some found ↔
    ∃ p rest, read? text = some (p, rest) ∧ p.kind = kind ∧ p.way rest = found := by
  constructor
  · intro h
    obtain ⟨p, rest, hread, rfl, -⟩ := reads_of_mem_ways (List.mem_of_mem_head? h)
    have hfound := find?_of_read? hread
    exact ⟨p, rest, hread, rfl, Option.some.inj (hfound.symm.trans h)⟩
  · rintro ⟨p, rest, hread, rfl, rfl⟩
    exact find?_of_read? hread

theorem eq_of_find? {kind kind' : Kind} {found' : Way Part}
    (h : kind.find? ('%'.toNat :: text) = some found)
    (h' : kind'.find? ('%'.toNat :: text) = some found') : kind = kind' := by
  obtain ⟨p, rest, hread, rfl, -⟩ := find?_eq_some_iff.mp h
  obtain ⟨p', rest', hread', rfl, -⟩ := find?_eq_some_iff.mp h'
  cases hread.symm.trans hread'
  rfl

/-- The first form that matches, with the way that it finds. -/
def firstOf (order : List Kind) (text : Text) : Option (Kind × Way Part) :=
  order.findSome? fun kind => (kind.find? text).map (kind, ·)

theorem firstOf_eq {order : List Kind} (hall : ∀ kind, kind ∈ order) (text : Text) :
    firstOf order ('%'.toNat :: text) =
      (read? text).map fun (p, rest) => (p.kind, p.way rest) := by
  have hsound {hit : Kind × Way Part} (h : firstOf order ('%'.toNat :: text) = some hit) :
      ∃ p rest, read? text = some (p, rest) ∧ (p.kind, p.way rest) = hit := by
    obtain ⟨kind, -, hkind⟩ := List.exists_of_findSome?_eq_some h
    obtain ⟨found, hfound, rfl⟩ := Option.map_eq_some_iff.mp hkind
    obtain ⟨p, rest, hread, rfl, rfl⟩ := find?_eq_some_iff.mp hfound
    exact ⟨p, rest, hread, rfl⟩
  cases hread : read? text with
  | none =>
    refine Option.eq_none_iff_forall_ne_some.mpr fun hit h => ?_
    obtain ⟨p, rest, hread', -⟩ := hsound h
    rw [hread] at hread'
    cases hread'
  | some read =>
    obtain ⟨p, rest⟩ := read
    have hhit : (firstOf order ('%'.toNat :: text)).isSome := by
      refine List.findSome?_isSome_iff.mpr ⟨p.kind, hall _, ?_⟩
      rw [find?_of_read? hread]
      rfl
    obtain ⟨hit, h⟩ := Option.isSome_iff_exists.mp hhit
    obtain ⟨p', rest', hread', rfl⟩ := hsound h
    cases hread.symm.trans hread'
    exact h

end Kind

/-- At a percent sign one form matches at most, and in whatever order the forms are tried, the first
that matches finds what one pass reads, with the same parts.  The pattern of conversions finds the
longest runs, and all other ways to cut the start of the text end at the same place, except that a
conversion behind a key can be left out.  It is left out, with all its parts, if the pass finds none. -/
theorem forms_unambiguous (text : Text) :
    (∀ (kind kind' : Kind) (found found' : Way Part), kind.find? ('%'.toNat :: text) = some found →
      kind'.find? ('%'.toNat :: text) = some found' → kind = kind') ∧
    (∀ order : List Kind, (∀ kind, kind ∈ order) → Kind.firstOf order ('%'.toNat :: text) =
      (read? text).map fun (p, rest) => (p.kind, p.way rest)) ∧
    (∀ (p : Placeholder) (rest : Text), read? text = some (p, rest) →
      ∀ found ∈ p.kind.ways ('%'.toNat :: text), Kind.Spans found p rest) ∧
    Conversion.capture.first? text =
      (Conversion.read? text).map (fun (spec, rest) => spec.way rest) ∧
    (∀ (s : Split) (rest : Text), s.Fits → text = s.written ++ rest →
      ∃ spec, Conversion.read? text = some (spec, rest)) ∧
    (∀ word, IsKey word → Conversion.read? text = none →
      Kind.named.find? (lit "%<" ++ word ++ lit ">" ++ text) =
        some ⟨[(.key, word)], lit "%<" ++ word ++ lit ">", text⟩) := by
  refine ⟨fun kind kind' found found' => Kind.eq_of_find?, fun order hall => Kind.firstOf_eq hall text,
    fun p rest hread found hfound => ?_, Conversion.first?_capture_eq text, ?_, ?_⟩
  · obtain ⟨p', rest', hread', -, hspans⟩ := Kind.reads_of_mem_ways hfound
    cases hread.symm.trans hread'
    exact hspans
  · rintro s rest hs rfl
    exact hs.exists_read? rest
  · intro word hword hread
    have hfits : (named word none).Fits text := fits_named_none hword hread
    have hfound := Kind.find?_written hfits
    have htext : (named word none).written = lit "%<" ++ word ++ lit ">" := by
      simp [written, form, lit]
    rw [htext] at hfound
    exact hfound.trans (by rw [way, htext]; rfl)

/-- Two zeros before the width, the second of which a split may give to it, and a point without
digits; and what is no conversion for want of a letter. -/
theorem forms_unambiguous_zeros :
    let text := lit "<n>005.d!"
    let spec : Conversion := ⟨[.zero, .zero], lit "5", some [], .d⟩
    let found : Way Part := ⟨[(.key, lit "n"), (.flags, lit "00"), (.width, lit "5"),
      (.precision, []), (.conversion, lit "d")], lit "%<n>005.d", lit "!"⟩
    (∀ kind found', kind.find? ('%'.toNat :: text) = some found' → Kind.named = kind) ∧
    Kind.firstOf [.positional, .braced, .named, .inline] ('%'.toNat :: text) =
      some (.named, found) ∧
    (∀ found' ∈ Kind.named.ways ('%'.toNat :: text),
      Kind.Spans found' (.named (lit "n") (some spec)) (lit "!")) ∧
    (∃ spec, Conversion.read? (lit "005.d!") = some (spec, lit "!")) ∧
    Kind.named.find? (lit "%<n> 05!") = some ⟨[(.key, lit "n")], lit "%<n>", lit " 05!"⟩ := by
  intro text spec found
  obtain ⟨honce, horder, hspans, -⟩ := forms_unambiguous text
  obtain ⟨-, -, -, -, hcut, -⟩ := forms_unambiguous (lit "005.d!")
  obtain ⟨-, -, -, -, -, hdropped⟩ := forms_unambiguous (lit " 05!")
  have hread : read? text = some (.named (lit "n") (some spec), lit "!") := by decide
  have hfound : Kind.named.find? ('%'.toNat :: text) = some found := Kind.find?_of_read? hread
  have hfits : Split.Fits ⟨lit "0", lit "05", some [], 'd'.toNat⟩ := by
    refine ⟨by decide, by decide, ?_, by decide⟩
    rintro _ ⟨⟩
    exact List.forall_mem_nil _
  refine ⟨fun kind found' => honce .named kind found found' hfound, ?_, hspans _ _ hread,
    hcut _ (lit "!") hfits rfl, hdropped (lit "n") ⟨by decide, by decide⟩ (by decide)⟩
  rw [horder _ fun kind => by cases kind <;> decide, hread]
  rfl

end Placeholder

end Phrasebook
