import Phrasebook.Template.InlinePlural
import Phrasebook.Template.Piece

/-! Templates: a text with its segments, each a literal text or a placeholder whose content is
known. -/

namespace Phrasebook

inductive Segment where
  | literal (text : Text)
  | positional (spec : Conversion)
  | named (key : Text) (spec : Option Conversion)
  | value (key : Text)
  | reference (count rules : Text)
  | inline (body : Text) (plural : InlinePlural)
  deriving DecidableEq

namespace Segment

def ofPlaceholder : Placeholder → Except InlinePlural.Malformed Segment
  | .positional spec => .ok (.positional spec)
  | .named key spec => .ok (.named key spec)
  | .value key => .ok (.value key)
  | .reference count rules => .ok (.reference count rules)
  | .inline body => (InlinePlural.parse body).map (.inline body)

/-- Fails on an inline plural that is malformed, and on nothing else. -/
def ofPiece : Piece → Except InlinePlural.Malformed Segment
  | .literal text => .ok (.literal text)
  | .placeholder p => ofPlaceholder p

/-- The text of the segment as the template has it, apart from doubled percent signs. -/
def source : Segment → Text
  | .literal text => text
  | .positional spec => (Placeholder.positional spec).written
  | .named key spec => (Placeholder.named key spec).written
  | .value key => (Placeholder.value key).written
  | .reference count rules => (Placeholder.reference count rules).written
  | .inline body _ => (Placeholder.inline body).written

def isLiteral : Segment → Bool
  | .literal _ => true
  | _ => false

/-- The segments before the first malformed inline plural, and what is wrong with that one. -/
def before : List Piece → List Segment × Option InlinePlural.Malformed
  | [] => ([], none)
  | piece :: pieces =>
    match ofPiece piece with
    | .error e => ([], some e)
    | .ok segment => let (segments, e) := before pieces; (segment :: segments, e)

end Segment

structure Template where
  source : Text
  segments : List Segment
  deriving DecidableEq

namespace Template

def parse (source : Text) : Except InlinePlural.Malformed Template :=
  ((Piece.scan source).mapM Segment.ofPiece).map (⟨source, ·⟩)

/-- Whether there is no placeholder. -/
def isLiteral (t : Template) : Bool := t.segments.all Segment.isLiteral

/-- The source in quotes, marked as a template. -/
def quoted (t : Template) : Text :=
  Text.lit "Template(" ++ Text.quoted t.source ++ Text.lit ")"

end Template

end Phrasebook
