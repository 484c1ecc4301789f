import Phrasebook.Proofs.Template.InlineEscape

/-! Inline plurals read by a cursor that goes forward through the body.  It looks at the character
where it stands, and is moved behind what was read. -/

namespace Phrasebook.InlinePlural

open QuotedString (escapes pairValue)
open Text (isSpace)

/-- A place in a body, and the places where the cursor stood before, the last one first. -/
structure Cursor where
  place : Nat
  passed : List Nat
  deriving DecidableEq

namespace Cursor

def start : Cursor := ⟨0, []⟩

def advance (n : Nat) (cursor : Cursor) : Cursor :=
  ⟨cursor.place + n, cursor.place :: cursor.passed⟩

@[simp] theorem place_advance (n : Nat) (cursor : Cursor) :
    (cursor.advance n).place = cursor.place + n := rfl

/-- The character at the cursor, unless the body ends there. -/
def peek (body : Text) (cursor : Cursor) : Option Nat := body[cursor.place]?

/-- What the body holds from the cursor on. -/
def ahead (body : Text) (cursor : Cursor) : Text := body.drop cursor.place

theorem lt_of_peek {body : Text} {cursor : Cursor} {c : Nat} (h : cursor.peek body = some c) :
    cursor.place < body.length :=
  (List.getElem?_eq_some_iff.mp h).1

/-- One cursor comes from another one by steps of one, four or six characters. -/
inductive Leads (cursor : Cursor) : Cursor → Prop
  | refl : Leads cursor cursor
  | step {cursor' : Cursor} {n : Nat} : Leads cursor cursor' → n ∈ [1, 4, 6] →
      Leads cursor (cursor'.advance n)

theorem Leads.trans {c₁ c₂ c₃ : Cursor} (h : Leads c₁ c₂) (h' : Leads c₂ c₃) : Leads c₁ c₃ := by
  induction h' with
  | refl => exact h
  | step _ hn ih => exact ih.step hn

theorem Leads.place_le {c₁ c₂ : Cursor} (h : Leads c₁ c₂) : c₁.place ≤ c₂.place := by
  induction h with
  | refl => exact Nat.le_refl _
  | step _ _ ih => exact Nat.le_trans ih (Nat.le_add_right _ _)

theorem leads_advance {n : Nat} (hn : n ∈ [1, 4, 6]) (cursor : Cursor) :
    Leads cursor (cursor.advance n) := Leads.refl.step hn

end Cursor

/-- Something that is read from the cursor on, or what is wrong, and where the cursor is then. -/
abbrev Walk (α : Type) := ExceptT Reason (StateM Cursor) α

/-- A walk moves the cursor by steps only. -/
def Walk.Onward {α : Type} (walk : Walk α) : Prop :=
  ∀ cursor : Cursor, cursor.Leads (walk cursor).2

namespace Walk

variable {α β : Type} {walk : Walk α} {next : α → Walk β} {cursor cursor' : Cursor}

theorem bind_of_ok {a : α} (h : walk cursor = (.ok a, cursor')) :
    (walk >>= next) cursor = next a cursor' := by
  simp only [bind, ExceptT.bind, ExceptT.mk, StateT.bind, h]
  rfl

theorem bind_of_error {reason : Reason} (h : walk cursor = (.error reason, cursor')) :
    (walk >>= next) cursor = (.error reason, cursor') := by
  simp only [bind, ExceptT.bind, ExceptT.mk, StateT.bind, h]
  rfl

theorem get_bind (next : Cursor → Walk β) (cursor : Cursor) :
    (get >>= next) cursor = next cursor cursor := rfl

theorem modify_bind (move : Cursor → Cursor) (next : PUnit → Walk β) (cursor : Cursor) :
    (modify move >>= next) cursor = next ⟨⟩ (move cursor) := rfl

theorem onward_pure (a : α) : Onward (pure a) := fun _ => .refl

theorem onward_throw (reason : Reason) : Onward (throw reason : Walk α) := fun _ => .refl

theorem onward_get : Onward (get : Walk Cursor) := fun _ => .refl

theorem onward_modify {move : Cursor → Cursor}
    (h : ∀ cursor : Cursor, cursor.Leads (move cursor)) :
    Onward (modify move : Walk PUnit) := h

theorem onward_advance {n : Nat} (hn : n ∈ [1, 4, 6]) :
    Onward (modify (Cursor.advance n) : Walk PUnit) :=
  onward_modify (Cursor.leads_advance hn)

theorem Onward.bind (h : Onward walk) (hnext : ∀ a, Onward (next a)) :
    Onward (walk >>= next) := by
  intro cursor
  have hleads := h cursor
  rcases hwalk : walk cursor with ⟨_ | a, cursor'⟩
  · rw [hwalk] at hleads
    rw [bind_of_error hwalk]
    exact hleads
  · rw [hwalk] at hleads
    rw [bind_of_ok hwalk]
    exact hleads.trans (hnext a cursor')

end Walk

open Walk

section

variable (body : Text)

def skip (cursor : Cursor) : Cursor :=
  match _h : cursor.peek body with
  | none => cursor
  | some c => if isSpace c then skip (cursor.advance 1) else cursor
termination_by body.length - cursor.place
decreasing_by
  have := Cursor.lt_of_peek _h
  simp only [Cursor.place_advance]
  omega

theorem leads_skip (cursor : Cursor) : cursor.Leads (skip body cursor) := by
  fun_induction skip body cursor with
  | case1 => exact .refl
  | case2 cursor c _ _ ih => exact (Cursor.leads_advance (by decide) cursor).trans ih
  | case3 => exact .refl

/-- Spaces and a mark. -/
def walkMark (c : Nat) : Walk Unit := do
  modify (skip body)
  if (← get).peek body = some c then modify (Cursor.advance 1) else throw (.expected c)

/-- The digits of a unit, and the low half of a pair behind the high one. -/
def walkUnit : Walk Nat := do
  match unit? ((← get).ahead body) with
  | none => throw (.string .invalidUnit)
  | some high =>
    modify (Cursor.advance 4)
    match low? high ((← get).ahead body) with
    | none => return high
    | some low =>
      modify (Cursor.advance 6)
      return pairValue high low

/-- The character that a backslash before the cursor escapes.  The letter is passed before it is
looked at, whether it is there or not. -/
def walkEscape : Walk Nat := do
  let letter := (← get).peek body
  modify (Cursor.advance 1)
  match letter.bind (escapes.lookup ·) with
  | some c => return c
  | none =>
    if letter = some 'u'.toNat then walkUnit body
    else throw (.string (.invalidEscape letter))

theorem onward_walkUnit : Onward (walkUnit body) := by
  refine onward_get.bind fun cursor => ?_
  split
  · exact onward_throw _
  · refine (onward_advance (by decide)).bind fun _ => onward_get.bind fun cursor => ?_
    split
    · exact onward_pure _
    · exact (onward_advance (by decide)).bind fun _ => onward_pure _

theorem onward_walkEscape : Onward (walkEscape body) := by
  refine onward_get.bind fun cursor => (onward_advance (by decide)).bind fun _ => ?_
  split
  · exact onward_pure _
  · split
    · exact onward_walkUnit body
    · exact onward_throw _

/-- The characters of a string behind its opening quotation mark. -/
def walkChars (cursor : Cursor) : Except Reason Text × Cursor :=
  match _h : cursor.peek body with
  | none => (.error (.string .unterminated), cursor)
  | some c =>
    if c = '"'.toNat then (.ok [], cursor.advance 1)
    else if c ≠ '\\'.toNat then (walkChars (cursor.advance 1)).map (Except.map (c :: ·)) id
    else
      match _hescape : walkEscape body (cursor.advance 1) with
      | (.error reason, after) => (.error reason, after)
      | (.ok c, after) => (walkChars after).map (Except.map (c :: ·)) id
termination_by body.length - cursor.place
decreasing_by
  · have := Cursor.lt_of_peek _h
    simp only [Cursor.place_advance]
    omega
  · have hlt := Cursor.lt_of_peek _h
    have hle := (onward_walkEscape body (cursor.advance 1)).place_le
    rw [_hescape] at hle
    simp only [Cursor.place_advance] at hle
    omega

theorem onward_walkChars : Onward (walkChars body) := by
  intro cursor
  have hnext := Cursor.leads_advance (n := 1) (by decide) cursor
  have hescaped := onward_walkEscape body (cursor.advance 1)
  fun_induction walkChars body cursor with
  | case1 => exact .refl
  | case2 => exact hnext
  | case3 cursor c _ _ _ ih =>
    exact hnext.trans (ih (Cursor.leads_advance (by decide) _) (onward_walkEscape body _))
  | case4 cursor c _ _ _ reason after hescape =>
    rw [hescape] at hescaped
    exact hnext.trans hescaped
  | case5 cursor c _ _ _ c' after hescape ih =>
    rw [hescape] at hescaped
    exact hnext.trans (hescaped.trans
      (ih (Cursor.leads_advance (by decide) _) (onward_walkEscape body _)))

def walkString : Walk Text := do
  modify (skip body)
  if (← get).peek body = some '"'.toNat then
    modify (Cursor.advance 1)
    walkChars body
  else throw .stringExpected

/-- A template behind the tag and the colon. -/
def walkTemplate (tag : Text) : Walk (Text × Text) := do
  modify (skip body)
  if (← get).peek body = some '"'.toNat then
    let template ← walkString body
    return (tag, template)
  else throw (.templateNotString tag)

def walkMember : Walk (Text × Text) := do
  modify (skip body)
  let tag ← walkString body
  walkMark body ':'.toNat
  walkTemplate body tag

theorem onward_walkMark (c : Nat) : Onward (walkMark body c) := by
  refine (onward_modify (leads_skip body)).bind fun _ => onward_get.bind fun cursor => ?_
  split
  · exact onward_advance (by decide)
  · exact onward_throw _

theorem onward_walkString : Onward (walkString body) := by
  refine (onward_modify (leads_skip body)).bind fun _ => onward_get.bind fun cursor => ?_
  split
  · exact (onward_advance (by decide)).bind fun _ => onward_walkChars body
  · exact onward_throw _

theorem onward_walkMember : Onward (walkMember body) := by
  refine (onward_modify (leads_skip body)).bind fun _ => (onward_walkString body).bind fun _ =>
    (onward_walkMark body _).bind fun _ => (onward_modify (leads_skip body)).bind fun _ =>
      onward_get.bind fun cursor => ?_
  split
  · exact (onward_walkString body).bind fun _ => onward_pure _
  · exact onward_throw _

/-- Members with commas between them, up to a closing brace. -/
def walkMembers (cursor : Cursor) : Except Reason (List (Text × Text)) × Cursor :=
  match _h : walkMember body cursor with
  | (.error reason, after) => (.error reason, after)
  | (.ok member, after) =>
    if _hcomma : (skip body after).peek body = some ','.toNat then
      (walkMembers ((skip body after).advance 1)).map (Except.map (member :: ·)) id
    else
      (walkMark body '}'.toNat (skip body after)).map (Except.map fun _ => [member]) id
termination_by body.length - cursor.place
decreasing_by
  have hlt := Cursor.lt_of_peek _hcomma
  have hmember := (onward_walkMember body cursor).place_le
  rw [_h] at hmember
  have hskip := (leads_skip body after).place_le
  simp only [Cursor.place_advance] at hmember ⊢
  omega

/-- The members behind the opening brace, or the closing one. -/
def walkInner : Walk (List (Text × Text)) := do
  modify (skip body)
  if (← get).peek body = some '}'.toNat then
    modify (Cursor.advance 1)
    return []
  else walkMembers body

def walkCategories : Walk (List (Text × Text)) := do
  walkMark body '{'.toNat
  walkInner body

/-- The closing brace behind the categories. -/
def walkClosing : Walk Unit := do
  modify (skip body)
  if (← get).peek body = some ','.toNat then throw .secondCountKey else walkMark body '}'.toNat

/-- What stands between the braces of an inline plural, and the closing one. -/
def walkPlural : Walk InlinePlural := do
  let countKey ← walkString body
  walkMark body ':'.toNat
  let members ← walkCategories body
  walkClosing body
  return ⟨countKey, members.foldl put []⟩

def walkRoot : Walk InlinePlural := do
  walkMark body '{'.toNat
  modify (skip body)
  if (← get).peek body = some '}'.toNat then throw .missingCountKey else walkPlural body

/-- Nothing but spaces behind an inline plural. -/
def walkEnd (plural : InlinePlural) : Walk InlinePlural := do
  modify (skip body)
  if (← get).place = body.length then return plural else throw .trailingContent

/-- A whole body, with spaces around the inline plural. -/
def walkWhole : Walk InlinePlural := do
  modify (skip body)
  let plural ← walkRoot body
  walkEnd body plural

/-- The whole body, from its start on. -/
def walk : Except Reason InlinePlural × Cursor := walkWhole body .start

theorem onward_walkMembers : Onward (walkMembers body) := by
  intro cursor
  have hmoved := onward_walkMember body cursor
  fun_induction walkMembers body cursor with
  | case1 cursor reason after hmember =>
    rw [hmember] at hmoved
    exact hmoved
  | case2 cursor member after hmember hcomma ih =>
    rw [hmember] at hmoved
    have hcomma := Cursor.leads_advance (n := 1) (by decide) (skip body after)
    exact hmoved.trans ((leads_skip body after).trans
      (hcomma.trans (ih (onward_walkMember body _))))
  | case3 cursor member after hmember hcomma =>
    rw [hmember] at hmoved
    exact hmoved.trans ((leads_skip body after).trans (onward_walkMark body _ _))

theorem onward_walkCategories : Onward (walkCategories body) := by
  refine (onward_walkMark body _).bind fun _ => (onward_modify (leads_skip body)).bind fun _ =>
    onward_get.bind fun cursor => ?_
  split
  · exact (onward_advance (by decide)).bind fun _ => onward_pure _
  · exact onward_walkMembers body

theorem onward_walkClosing : Onward (walkClosing body) := by
  refine (onward_modify (leads_skip body)).bind fun _ => onward_get.bind fun cursor => ?_
  split
  · exact onward_throw _
  · exact onward_walkMark body _

theorem onward_walkRoot : Onward (walkRoot body) := by
  refine (onward_walkMark body _).bind fun _ => (onward_modify (leads_skip body)).bind fun _ =>
    onward_get.bind fun cursor => ?_
  split
  · exact onward_throw _
  · exact (onward_walkString body).bind fun _ => (onward_walkMark body _).bind fun _ =>
      (onward_walkCategories body).bind fun _ => (onward_walkClosing body).bind fun _ =>
        onward_pure _

theorem leads_walk : Cursor.Leads .start (walk body).2 := by
  have hend : ∀ plural, Onward (walkEnd body plural) := by
    intro plural
    refine (onward_modify (leads_skip body)).bind fun _ => onward_get.bind fun cursor => ?_
    split
    · exact onward_pure _
    · exact onward_throw _
  exact ((onward_modify (leads_skip body)).bind fun _ => (onward_walkRoot body).bind hend) _

end

end Phrasebook.InlinePlural
