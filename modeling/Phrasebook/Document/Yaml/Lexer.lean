import Phrasebook.Document.Yaml.Token

/-! The tokens of a YAML document, one after the other.  A key without a mark of its own is known only
by the colon behind it: until then its first token is a candidate. -/

namespace Phrasebook.Yaml

open Text (lit)

/-- A token with which a key may begin: how many tokens stand before it, where it stands, and whether
a colon must follow. -/
structure Candidate where
  number : Nat
  place : Cursor
  isRequired : Bool

/-- What is left of a document and the tokens that are read but not taken.  `depth` counts the
brackets that are open, `blocks` has the columns of open blocks with the innermost first, and there is
at most one candidate for each depth. -/
structure Lexer where
  cursor : Cursor
  queue : List Token
  taken : Nat
  depth : Int
  blocks : List Nat
  allowsKey : Bool
  candidates : List (Int × Candidate)
  isFinished : Bool

namespace Lexer

def start (text : Text) : Lexer := ⟨.start text, [], 0, 0, [], true, [], false⟩

def inFlow (l : Lexer) : Bool := l.depth != 0

/-- The column of the innermost block. -/
def indent (l : Lexer) : Int :=
  match l.blocks with
  | [] => -1
  | column :: _ => column

def emit (t : Token) (l : Lexer) : Lexer := { l with queue := l.queue ++ [t] }

/-- A token of `n` characters. -/
def mark (t : Token) (n : Nat) (l : Lexer) : Lexer :=
  { l with cursor := l.cursor.advance n }.emit t

def permitKey (allowsKey : Bool) (l : Lexer) : Lexer := { l with allowsKey }

/-- A token that is read where the lexer stands. -/
def append (read : Cursor → Except Fault (Token × Cursor)) (l : Lexer) : Except Fault Lexer :=
  (read l.cursor).map fun (t, cursor) => { l with cursor }.emit t

def forget (depth : Int) (l : Lexer) : Lexer :=
  { l with candidates := l.candidates.filter (·.1 != depth) }

/-- The candidate at this depth is given up, unless a colon must follow it. -/
def giveUp (l : Lexer) : Except Fault Lexer :=
  match l.candidates.lookup l.depth with
  | some k => if k.isRequired then .error .token else .ok (l.forget l.depth)
  | none => .ok l

/-- How many characters a key without a mark has at most. -/
def longestKey : Nat := 1024

/-- Whether a key that begins at a place has gone on too long; it must end on its line. -/
def isStale (l : Lexer) (k : Candidate) : Bool :=
  k.place.line != l.cursor.line || longestKey < l.cursor.index - k.place.index

def giveUpStale (l : Lexer) : Except Fault Lexer :=
  if l.candidates.any fun (_, k) => l.isStale k && k.isRequired then .error .token
  else .ok { l with candidates := l.candidates.filter fun (_, k) => !l.isStale k }

/-- The next token may begin a key.  At the column of a block it must. -/
def offer (l : Lexer) : Except Fault Lexer := do
  if !l.allowsKey then return l
  let others ← l.giveUp
  let isRequired := !l.inFlow && l.indent == l.cursor.column
  let k : Candidate := ⟨l.taken + l.queue.length, l.cursor, isRequired⟩
  return { others with candidates := (l.depth, k) :: others.candidates }

/-- The blocks that are indented deeper than a column end. -/
def closeBlocks (column : Int) (l : Lexer) : Lexer :=
  if l.inFlow then l
  else
    let blocks := l.blocks.dropWhile fun (inner : Nat) => column < inner
    let ends := List.replicate (l.blocks.length - blocks.length) Token.blockEnd
    { l with blocks, queue := l.queue ++ ends }

/-- A block begins where an item or a key stands deeper than the innermost one. -/
def openBlock (t : Token) (l : Lexer) : Except Fault Lexer :=
  if l.inFlow then .ok l
  else if !l.allowsKey then .error .token
  else if l.indent < l.cursor.column then
    .ok ({ l with blocks := l.cursor.column :: l.blocks }.emit t)
  else .ok l

/-- The place behind blanks, comments and ends of lines. -/
def skipSpace (bound : Nat) (c : Cursor) : Cursor :=
  let c := c.skipBlanks.skipComment
  match bound, c.lineBreak? with
  | bound + 1, some (_, c) => skipSpace bound c
  | _, _ => c

/-- The place where the next token begins.  Keys may begin on a new line. -/
def toToken (l : Lexer) : Lexer :=
  let c := if l.cursor.index = 0 ∧ l.cursor.peek = 0xFEFF then l.cursor.next else l.cursor
  let cursor := skipSpace c.rest.length c
  { l with cursor, allowsKey := l.allowsKey || (!l.inFlow && c.line < cursor.line) }

def readEnd (l : Lexer) : Except Fault Lexer := do
  let l ← (l.closeBlocks (-1)).giveUp
  return { l.emit .streamEnd with allowsKey := false, candidates := [], isFinished := true }

/-- A directive or a mark between documents. -/
def readBoundary (read : Cursor → Except Fault (Token × Cursor)) (l : Lexer) : Except Fault Lexer := do
  let l ← (l.closeBlocks (-1)).giveUp
  (l.permitKey false).append read

def readFlowStart (t : Token) (l : Lexer) : Except Fault Lexer := do
  let l ← l.offer
  return ({ l with depth := l.depth + 1 }.permitKey true).mark t 1

def readFlowEnd (t : Token) (l : Lexer) : Except Fault Lexer := do
  let l ← l.giveUp
  return ({ l with depth := l.depth - 1 }.permitKey false).mark t 1

def readFlowEntry (l : Lexer) : Except Fault Lexer := do
  let l ← (l.permitKey true).giveUp
  return l.mark .flowEntry 1

def readBlockEntry (l : Lexer) : Except Fault Lexer := do
  let l ← ((← l.openBlock .blockSequence).permitKey true).giveUp
  return l.mark .blockEntry 1

def readKey (l : Lexer) : Except Fault Lexer := do
  let l ← ((← l.openBlock .blockMapping).permitKey !l.inFlow).giveUp
  return l.mark .key 1

/-- The tokens that come to stand before the first one of a key, which may open a block. -/
def insertKey (k : Candidate) (l : Lexer) : Lexer :=
  let opens := !l.inFlow && decide (l.indent < k.place.column)
  let (before, behind) := l.queue.splitAt (k.number - l.taken)
  let marks := if opens then [Token.blockMapping, .key] else [.key]
  { l with
    queue := before ++ marks ++ behind
    blocks := if opens then k.place.column :: l.blocks else l.blocks }

/-- A colon, which makes a key of the candidate at its depth. -/
def readColon (l : Lexer) : Except Fault Lexer :=
  match l.candidates.lookup l.depth with
  | some k => .ok ((((l.forget l.depth).insertKey k).permitKey false).mark .value 1)
  | none => do
    let l ← l.openBlock .blockMapping
    return (l.permitKey !l.inFlow).mark .value 1

/-- An alias, an anchor, a tag or a text in quotes, with which a key may begin. -/
def readPart (read : Cursor → Except Fault (Token × Cursor)) (l : Lexer) : Except Fault Lexer := do
  let l ← l.offer
  (l.permitKey false).append read

def readBlockText (isFolded : Bool) (l : Lexer) : Except Fault Lexer := do
  let l ← (l.permitKey true).giveUp
  l.append fun c => do
    let (text, c) ← readBlock isFolded l.indent c.next
    return (.scalar text false, c)

def readQuotedText (double : Bool) (l : Lexer) : Except Fault Lexer :=
  l.readPart fun c => do
    let (text, c) ← readQuoted double c.rest.length c.next
    return (.scalar text false, c)

/-- A plain scalar.  A key may follow it on the next line. -/
def readPlainText (l : Lexer) : Except Fault Lexer := do
  let l ← l.offer
  let (text, cursor, fresh) :=
    readPlain l.inFlow (l.indent + 1) l.cursor.rest.length [] l.cursor false
  return ({ l with cursor }.permitKey fresh).emit (.scalar text true)

/-- Marks that have a meaning of their own where a scalar could begin. -/
def indicators : Text := lit "-?:,[]\x7b\x7d#&*!|>'\"%@\x60"

/-- Whether a plain scalar begins here. -/
def startsPlain (l : Lexer) : Bool :=
  let c := l.cursor.peek
  let isAlone := endsWord (l.cursor.peekAt 1)
  (!endsWord c && !indicators.contains c) ||
    (!isAlone && (c == '-'.toNat || (!l.inFlow && (c == '?'.toNat || c == ':'.toNat))))

/-- At least one more token, if the document goes on. -/
def readMore (l : Lexer) : Except Fault Lexer := do
  let l ← l.toToken.giveUpStale
  let l := l.closeBlocks l.cursor.column
  let c := l.cursor
  let isAlone := endsWord (c.peekAt 1)
  let is (sign : Char) : Bool := c.peek == sign.toNat
  if c.peek = 0 then l.readEnd
  else if c.column = 0 && is '%' then l.readBoundary readDirective
  else if c.column = 0 && c.isMark "---" then
    l.readBoundary fun c => .ok (.documentStart, c.advance 3)
  else if c.column = 0 && c.isMark "..." then
    l.readBoundary fun c => .ok (.documentEnd, c.advance 3)
  else if is '[' then l.readFlowStart .flowSequence
  else if is '\x7b' then l.readFlowStart .flowMapping
  else if is ']' then l.readFlowEnd .flowSequenceEnd
  else if is '\x7d' then l.readFlowEnd .flowMappingEnd
  else if is ',' then l.readFlowEntry
  else if is '-' && isAlone then l.readBlockEntry
  else if is '?' && (l.inFlow || isAlone) then l.readKey
  else if is ':' && (l.inFlow || isAlone) then l.readColon
  else if is '*' then l.readPart fun c => (readName c).map fun (name, c) => (.alias name, c)
  else if is '&' then l.readPart fun c => (readName c).map fun (name, c) => (.anchor name, c)
  else if is '!' then l.readPart readTag
  else if is '|' && !l.inFlow then l.readBlockText false
  else if is '>' && !l.inFlow then l.readBlockText true
  else if is '\'' then l.readQuotedText false
  else if is '"' then l.readQuotedText true
  else if l.startsPlain then l.readPlainText
  else throw .token

/-- Tokens are read, in at most `bound` steps, until it is known what the next one is. -/
def fill (bound : Nat) (l : Lexer) : Except Fault Lexer := do
  if l.isFinished then return l
  let l ← if l.queue.isEmpty then pure l else l.giveUpStale
  match bound with
  | 0 => return l
  | bound + 1 =>
    if l.queue.isEmpty || l.candidates.any (·.2.number == l.taken) then
      fill bound (← l.readMore)
    else return l

/-- The next token, and the lexer with it in front. -/
def head (l : Lexer) : Except Fault (Token × Lexer) :=
  match l.queue, l.candidates with
  | t :: _, [] => .ok (t, l)
  | _, _ => (l.fill (l.cursor.rest.length + 1)).map fun l => (l.queue.headD .streamEnd, l)

/-- The lexer behind the next token. -/
def tail (l : Lexer) : Lexer := { l with queue := l.queue.drop 1, taken := l.taken + 1 }

end Lexer

end Phrasebook.Yaml
