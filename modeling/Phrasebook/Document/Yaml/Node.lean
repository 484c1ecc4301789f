import Phrasebook.Document.Yaml.Lexer
import Phrasebook.Document.Yaml.Tag

/-! Nodes of a YAML document, made of its tokens. -/

namespace Phrasebook.Yaml

open Text (lit)

inductive Node where
  | scalar (tag : Tag) (text : Text)
  | sequence (tag : Tag) (items : List Node)
  | mapping (tag : Tag) (entries : List (Node × Node))

/-- The node that stands where one is missing. -/
def Node.missing : Node := .scalar .null []

/-- A lexer, what the handles of tags stand for, and the nodes that anchors name. -/
structure Reading where
  lexer : Lexer
  handles : List (Text × Text)
  anchors : List (Text × Node)

abbrev Reader := StateT Reading (Except Fault)

/-- The next token. -/
def peek : Reader Token := do
  let r ← get
  let (t, lexer) ← r.lexer.head
  set { r with lexer }
  return t

/-- The next token is taken. -/
def take : Reader Unit := modify fun r => { r with lexer := r.lexer.tail }

/-- The name of a node that aliases repeat, and its tag. -/
structure Properties where
  anchor : Option Text
  tag : Option Text

def readAnchor : Reader (Option Text) := do
  match ← peek with
  | .anchor name =>
    take
    return some name
  | _ => return none

/-- A tag with what its handle stands for. -/
def fullTag (handle : Option Text) (name : Text) : Reader Text := do
  match handle with
  | none => return name
  | some handle =>
    match (← get).handles.lookup handle with
    | some meaning => return meaning ++ name
    | none => throw .node

/-- An anchor and a tag in either order, of which any can be missing. -/
def readProperties : Reader Properties := do
  let first ← readAnchor
  match ← peek with
  | .tag handle name =>
    take
    let anchor ← if first.isSome then pure first else readAnchor
    return ⟨anchor, some (← fullTag handle name)⟩
  | _ => return ⟨first, none⟩

/-- The name that stands for no tag. -/
def noTag : Text := lit "!"

/-- The tag of a collection, which may be written. -/
def Properties.tagOr (p : Properties) (usual : Tag) : Tag :=
  match p.tag with
  | none => usual
  | some name => if name = noTag then usual else .ofName name

/-- A scalar with the tag that is written; without one, its text shows the tag if it is plain. -/
def Properties.scalar (p : Properties) (text : Text) (plain : Bool) : Node :=
  match p.tag with
  | none => .scalar (if plain then .ofScalar text else .text) text
  | some name => .scalar (if name = noTag then .ofScalar text else .ofName name) text

/-- The anchor of a node, which must be new, stands for the node. -/
def name (p : Properties) (node : Node) : Reader Node := do
  match p.anchor with
  | none => return node
  | some anchor =>
    modify fun r => { r with anchors := (anchor, node) :: r.anchors }
    return node

/-- An anchor that is there already cannot be given to another node. -/
def checkAnchor (p : Properties) : Reader Unit := do
  let known := (← get).anchors
  if p.anchor.any fun anchor => (known.lookup anchor).isSome then throw .composition

/-- The node that is read, unless a token shows that there is none. -/
def readUnless (isMissing : Token → Bool) (read : Reader Node) : Reader Node := do
  if isMissing (← peek) then return .missing else read

/-- The node that is read behind the mark of a value, if the mark is there. -/
def readValueUnless (isMissing : Token → Bool) (read : Reader Node) : Reader Node := do
  match ← peek with
  | .value =>
    take
    readUnless isMissing read
  | _ => return .missing

/-- Where a node stands: in brackets, in a block, or as a member of a mapping that is a block, where
the items of a sequence need not be indented. -/
inductive Place where
  | flow
  | block
  | member
  deriving DecidableEq

/-- Tokens with which the next member of a block begins, or with which the block ends. -/
def endsMember : Token → Bool
  | .key => true
  | .value => true
  | .blockEnd => true
  | _ => false

def endsItem : Token → Bool
  | .blockEntry => true
  | .blockEnd => true
  | _ => false

/-- Tokens behind a part of a flow, of which `last` ends it. -/
def endsFlow (last t : Token) : Bool := t == .flowEntry || t == last

/-- The mark between two parts of a flow. -/
def readSeparator (isFirst : Bool) : Reader Unit := do
  if isFirst then return
  match ← peek with
  | .flowEntry => take
  | _ => throw .node

/-- A collection, for which its anchor stands; while it is read, the anchor stands for an empty one. -/
def readCollection {α : Type} (p : Properties) (make : List α → Node) (read : Reader (List α)) :
    Reader Node := do
  checkAnchor p
  discard (name p (make []))
  name p (make (← read))

/-- The text that has the properties read before it.  If there is none, the text is empty. -/
def readText (p : Properties) : Reader Node := do
  match ← peek with
  | .scalar text plain =>
    take
    checkAnchor p
    name p (p.scalar text plain)
  | _ =>
    if p.anchor.isNone ∧ p.tag.isNone then throw .node
    checkAnchor p
    name p (p.scalar [] true)

mutual

/-- The node with which the next tokens begin.  All readers from here on go down at most `bound`
steps. -/
def readNode (bound : Nat) (place : Place) : Reader Node := do
  match bound, ← peek with
  | 0, _ => throw .node
  | _, .alias anchor =>
    take
    match (← get).anchors.lookup anchor with
    | some node => return node
    | none => throw .composition
  | bound + 1, _ => readContent bound place (← readProperties)

/-- The node that has the properties read before it. -/
def readContent (bound : Nat) (place : Place) (p : Properties) : Reader Node := do
  let sequence := readCollection p (.sequence (p.tagOr .list))
  let mapping := readCollection p (.mapping (p.tagOr .map))
  match bound, ← peek, place with
  | 0, _, _ => throw .node
  | bound + 1, .flowSequence, _ => sequence (take *> readFlowItems bound true [])
  | bound + 1, .flowMapping, _ => mapping (take *> readFlowMembers bound true [])
  | _, .blockSequence, .flow => readText p
  | bound + 1, .blockSequence, _ => sequence (take *> readItems bound [])
  | _, .blockMapping, .flow => readText p
  | bound + 1, .blockMapping, _ => mapping (take *> readMembers bound [])
  | bound + 1, .blockEntry, .member => sequence (readLooseItems bound [])
  | _, _, _ => readText p

/-- The items of a block behind the ones that are read, which are the latest first. -/
def readItems (bound : Nat) (items : List Node) : Reader (List Node) := do
  match bound, ← peek with
  | bound + 1, .blockEntry =>
    take
    let item ← readUnless endsItem (readNode bound .block)
    readItems bound (item :: items)
  | _, .blockEnd =>
    take
    return items.reverse
  | _, _ => throw .node

/-- Items that are not indented deeper than the key before them, behind the ones that are read. -/
def readLooseItems (bound : Nat) (items : List Node) : Reader (List Node) := do
  match bound, ← peek with
  | 0, _ => throw .node
  | bound + 1, .blockEntry =>
    take
    let item ← readUnless (fun t => endsItem t || endsMember t) (readNode bound .block)
    readLooseItems bound (item :: items)
  | _, _ => return items.reverse

/-- The members of a block behind the ones that are read, which are the latest first. -/
def readMembers (bound : Nat) (members : List (Node × Node)) : Reader (List (Node × Node)) := do
  match bound, ← peek with
  | bound + 1, .key =>
    take
    let key ← readUnless endsMember (readNode bound .member)
    let value ← readValueUnless endsMember (readNode bound .member)
    readMembers bound ((key, value) :: members)
  | _, .blockEnd =>
    take
    return members.reverse
  | _, _ => throw .node

/-- The items between brackets behind the ones that are read.  A key with its value among them is a
mapping. -/
def readFlowItems (bound : Nat) (isFirst : Bool) (items : List Node) : Reader (List Node) := do
  let ends := endsFlow .flowSequenceEnd
  if (← peek) ≠ .flowSequenceEnd then readSeparator isFirst
  match bound, ← peek with
  | _, .flowSequenceEnd =>
    take
    return items.reverse
  | 0, _ => throw .node
  | bound + 1, .key =>
    take
    let key ← readUnless (fun t => t == .value || ends t) (readNode bound .flow)
    let value ← readValueUnless ends (readNode bound .flow)
    readFlowItems bound false (.mapping .map [(key, value)] :: items)
  | bound + 1, _ => readFlowItems bound false ((← readNode bound .flow) :: items)

/-- The members between braces behind the ones that are read.  Without a mark before it, a key has no
value. -/
def readFlowMembers (bound : Nat) (isFirst : Bool) (members : List (Node × Node)) :
    Reader (List (Node × Node)) := do
  let ends := endsFlow .flowMappingEnd
  if (← peek) ≠ .flowMappingEnd then readSeparator isFirst
  match bound, ← peek with
  | _, .flowMappingEnd =>
    take
    return members.reverse
  | 0, _ => throw .node
  | bound + 1, .key =>
    take
    let key ← readUnless (fun t => t == .value || ends t) (readNode bound .flow)
    let value ← readValueUnless ends (readNode bound .flow)
    readFlowMembers bound false ((key, value) :: members)
  | bound + 1, _ => readFlowMembers bound false ((← readNode bound .flow, .missing) :: members)

end

/-- What handles stand for without a directive. -/
def usualHandles : List (Text × Text) := [(lit "!", lit "!"), (lit "!!", Tag.standard)]

/-- What the directives before a document say, behind those that are read: whether the version is
known, and the handles. -/
def readDirectives (bound : Nat) (hasVersion : Bool) (handles : List (Text × Text)) :
    Reader (List (Text × Text)) := do
  match bound, ← peek with
  | bound + 1, .directive d =>
    take
    match d with
    | .version major =>
      if hasVersion ∨ major ≠ 1 then throw .node
      readDirectives bound true handles
    | .handle handle meaning =>
      if (handles.lookup handle).isSome then throw .node
      readDirectives bound hasVersion ((handle, meaning) :: handles)
    | .other => readDirectives bound hasVersion handles
  | _, _ => return handles

/-- The marks at the ends of documents, of which `bound` are taken at most. -/
def skipEnds (bound : Nat) : Reader Unit := do
  match bound, ← peek with
  | bound + 1, .documentEnd =>
    take
    skipEnds bound
  | _, _ => return

/-- The beginning of a document with a mark, unless no document is left. -/
def readStart (bound : Nat) : Reader Bool := do
  skipEnds bound
  if (← peek) = .streamEnd then return false
  let handles ← readDirectives bound false []
  if (← peek) ≠ .documentStart then throw .node
  take
  modify fun r => { r with handles := handles ++ usualHandles }
  return true

/-- Tokens that begin a document with a mark, or end it. -/
def isBoundary : Token → Bool
  | .directive _ => true
  | .documentStart => true
  | .documentEnd => true
  | .streamEnd => true
  | _ => false

/-- The node of the first document, if there is one. -/
def readDocument (bound : Nat) : Reader (Option Node) := do
  match ← peek with
  | .documentEnd => some <$> readNode bound .block
  | t =>
    if !isBoundary t then some <$> readNode bound .block
    else if ← readStart bound then some <$> readUnless isBoundary (readNode bound .block)
    else return none

/-- The node of the only document. -/
def readOnly (bound : Nat) : Reader (Option Node) := do
  let node? ← readDocument bound
  if node?.isSome then
    if ← readStart bound then throw .composition
  return node?

/-- A bound for the levels of a text and for the steps down to them: each character makes at most four
tokens, and no token takes more than two steps. -/
def levels (text : Text) : Nat := 8 * (text.length + 2)

/-- The node that a text holds. -/
def Node.read (text : Text) : Except Fault (Option Node) :=
  (readOnly (levels text)).run' ⟨.start text, usualHandles, []⟩

end Phrasebook.Yaml
