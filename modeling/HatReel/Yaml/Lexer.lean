import HatReel.Yaml.Block
import HatReel.Yaml.Property
import HatReel.Yaml.Quoted

/-!
Tokens of a text. Whether something is the key of a mapping is known only at the colon behind it. So
each level of brackets remembers its last candidate for a key, and a token is handed out only when
no candidate can come before it any more. A candidate is on one line and at most 1024 characters
long.
-/

namespace HatReel.Yaml

/-- Something that a colon would turn into a key: the number its token has, whether it has to be a
key, and where it begins. -/
structure Candidate where
  number : Nat
  isRequired : Bool
  start : Mark
  deriving DecidableEq, Repr

structure Lexer where
  cursor : Cursor
  /-- Whether the end of the text has been reached. -/
  isClosed : Bool := false
  /-- How many brackets are open. -/
  depth : Nat := 0
  /-- Tokens that are not handed out yet. -/
  waiting : List Token := []
  handedOut : Nat := 0
  /-- The columns of the open blocks, the innermost first. -/
  indents : List Nat := []
  /-- Whether a key may begin here. -/
  keyAllowed : Bool := true
  /-- Candidates by depth. -/
  candidates : List (Nat × Candidate) := []

namespace Lexer

def start (text : List Char) : Lexer :=
  let cursor : Cursor := { rest := text }
  { cursor, waiting := [⟨.streamStart, cursor.mark, cursor.mark⟩] }

def mark (s : Lexer) : Mark := s.cursor.mark

def inFlow (s : Lexer) : Bool := 0 < s.depth

def candidate? (s : Lexer) : Option Candidate := s.candidates.lookup s.depth

def dropCandidate (s : Lexer) : Lexer :=
  { s with candidates := s.candidates.filter fun e => e.1 != s.depth }

def fail {α : Type} (s : Lexer) (fault : CharacterFault) : Except Fault α :=
  .error (.character fault s.mark)

def isStale (s : Lexer) (c : Candidate) : Bool :=
  c.start.line != s.cursor.line || 1024 < s.cursor.index - c.start.index

def dropStale (s : Lexer) : Except Fault Lexer :=
  if s.candidates.any fun e => s.isStale e.2 && e.2.isRequired then s.fail .keyWithoutColon
  else .ok { s with candidates := s.candidates.filter fun e => !s.isStale e.2 }

/-- Forgets the candidate of this depth, because it was none. -/
def giveUpCandidate (s : Lexer) : Except Fault Lexer :=
  if s.candidate?.any (·.isRequired) then s.fail .keyWithoutColon else .ok s.dropCandidate

/-- Remembers that what begins here may be a key. In a block it has to be one if keys of this block
stand in this column. -/
def saveCandidate (s : Lexer) : Except Fault Lexer :=
  if s.keyAllowed then do
    let isRequired := !s.inFlow && s.indents.head? == some s.cursor.column
    let s ← s.giveUpCandidate
    let candidate := ⟨s.handedOut + s.waiting.length, isRequired, s.mark⟩
    return { s with candidates := (s.depth, candidate) :: s.candidates }
  else .ok s

def push (s : Lexer) (t : Token) : Lexer := { s with waiting := s.waiting ++ [t] }

/-- A token without width, where the text stands. -/
def pushHere (s : Lexer) (kind : TokenKind) : Lexer := s.push ⟨kind, s.mark, s.mark⟩

def insertAt (s : Lexer) (number : Nat) (t : Token) : Lexer :=
  let place := number - s.handedOut
  { s with waiting := s.waiting.take place ++ t :: s.waiting.drop place }

def pushWide (s : Lexer) (kind : TokenKind) (width : Nat) : Lexer :=
  let next := s.cursor.skip width
  { s with cursor := next }.push ⟨kind, s.mark, next.mark⟩

def pushRead (s : Lexer) (kind : TokenKind) (next : Cursor) : Lexer :=
  { s with cursor := next }.push ⟨kind, s.mark, next.mark⟩

/-- Closes the blocks whose column satisfies `p`; brackets keep them open. -/
def closeBlocks (p : Nat → Bool) (s : Lexer) : Lexer :=
  if s.inFlow then s
  else
    let closed := s.indents.takeWhile p
    let ends := closed.map fun _ => (⟨.blockEnd, s.mark, s.mark⟩ : Token)
    { s with indents := s.indents.drop closed.length, waiting := s.waiting ++ ends }

def isDeeper (s : Lexer) (column : Nat) : Bool :=
  match s.indents with
  | [] => true
  | indent :: _ => indent < column

def openBlock (s : Lexer) (kind : TokenKind) : Lexer :=
  if s.isDeeper s.cursor.column then
    { s with indents := s.cursor.column :: s.indents }.pushHere kind
  else s

/-- Steps over spaces, comments and line ends. A new line in a block may begin with a key. -/
def skipGaps : Nat → Lexer → Lexer
  | 0, s => s
  | n + 1, s =>
    let cursor := s.cursor.skipComment
    if isBreak cursor.peek then
      skipGaps n { s with cursor := cursor.step, keyAllowed := s.keyAllowed || !s.inFlow }
    else { s with cursor }

def skipOrderMark (s : Lexer) : Lexer :=
  if s.cursor.index == 0 && s.cursor.peek == '\ufeff' then { s with cursor := s.cursor.step } else s

def readEnd (s : Lexer) : Except Fault Lexer := do
  let s ← (s.closeBlocks fun _ => true).giveUpCandidate
  return { s with keyAllowed := false, candidates := [], isClosed := true }.pushHere .streamEnd

def readDirectiveLine (s : Lexer) : Except Fault Lexer := do
  let s ← (s.closeBlocks fun _ => true).giveUpCandidate
  let (directive, next) ← readDirective s.cursor
  return { s with keyAllowed := false }.pushRead (.directive directive) next

def readMarker (kind : TokenKind) (s : Lexer) : Except Fault Lexer := do
  let s ← (s.closeBlocks fun _ => true).giveUpCandidate
  return { s with keyAllowed := false }.pushWide kind 3

def readOpening (kind : TokenKind) (s : Lexer) : Except Fault Lexer := do
  let s ← s.saveCandidate
  return { s with depth := s.depth + 1, keyAllowed := true }.pushWide kind 1

def readClosing (kind : TokenKind) (s : Lexer) : Except Fault Lexer := do
  let s ← s.giveUpCandidate
  return { s with depth := s.depth - 1, keyAllowed := false }.pushWide kind 1

def readComma (s : Lexer) : Except Fault Lexer := do
  let s ← s.giveUpCandidate
  return { s with keyAllowed := true }.pushWide .flowEntry 1

def readEntry (s : Lexer) : Except Fault Lexer := do
  let s ←
    if s.inFlow then pure s
    else if !s.keyAllowed then s.fail .misplacedEntry
    else pure (s.openBlock .blockSequenceStart)
  let s ← s.giveUpCandidate
  return { s with keyAllowed := true }.pushWide .blockEntry 1

def readKey (s : Lexer) : Except Fault Lexer := do
  let s ←
    if s.inFlow then pure s
    else if !s.keyAllowed then s.fail .misplacedKey
    else pure (s.openBlock .blockMappingStart)
  let s ← s.giveUpCandidate
  return { s with keyAllowed := !s.inFlow }.pushWide .key 1

/-- Turns the candidate into a key, which may open a block. -/
def settleKey (c : Candidate) (s : Lexer) : Lexer :=
  let s := s.dropCandidate.insertAt c.number ⟨.key, c.start, c.start⟩
  let s :=
    if !s.inFlow && s.isDeeper c.start.column then
      { s with indents := c.start.column :: s.indents }.insertAt c.number
        ⟨.blockMappingStart, c.start, c.start⟩
    else s
  { s with keyAllowed := false }

def readColon (s : Lexer) : Except Fault Lexer :=
  match s.candidate? with
  | some c => .ok ((s.settleKey c).pushWide .value 1)
  | none => do
    let s ←
      if s.inFlow then pure s
      else if !s.keyAllowed then s.fail .misplacedValue
      else pure (s.openBlock .blockMappingStart)
    let s ← s.giveUpCandidate
    return { s with keyAllowed := !s.inFlow }.pushWide .value 1

def readReference (kind : String → TokenKind) (s : Lexer) : Except Fault Lexer := do
  let s ← s.saveCandidate
  let (name, next) ← readAnchor s.cursor
  return { s with keyAllowed := false }.pushRead (kind name) next

def readTagToken (s : Lexer) : Except Fault Lexer := do
  let s ← s.saveCandidate
  let (handle, suffix, next) ← readTag s.cursor
  return { s with keyAllowed := false }.pushRead (.tag handle suffix) next

def readBlockScalar (isFolded : Bool) (s : Lexer) : Except Fault Lexer := do
  let s ← s.giveUpCandidate
  let least := (s.indents.head?.map (· + 1)).getD 0
  let (scalar, next) ← readBlock isFolded least s.cursor
  return { s with keyAllowed := true }.pushRead (.scalar scalar) next

def readQuotedScalar (isDouble : Bool) (s : Lexer) : Except Fault Lexer := do
  let s ← s.saveCandidate
  let (scalar, next) ← readQuoted isDouble s.cursor
  return { s with keyAllowed := false }.pushRead (.scalar scalar) next

def readPlainScalar (s : Lexer) : Except Fault Lexer := do
  let s ← s.saveCandidate
  let indent := (s.indents.head?.map (· + 1)).getD 0
  let (scalar, crossed, next) := readPlain s.inFlow indent s.cursor
  return { s with keyAllowed := crossed }.pushRead (.scalar scalar) next

/-- Whether an indicator is one here: anywhere in brackets, else before a gap. -/
def isIndicator (s : Lexer) : Bool := s.inFlow || isGapOrEnd (s.cursor.ahead 1)

def indicators : List Char := ",[]\x7b\x7d#&*!|>\x27\x22%@\x60-?:".toList

def beginsPlain (s : Lexer) : Bool :=
  let c := s.cursor.peek
  !(isGapOrEnd c || indicators.contains c) ||
    (!isGapOrEnd (s.cursor.ahead 1) && (c == '-' || (!s.inFlow && (c == '?' || c == ':'))))

def readToken (s : Lexer) : Except Fault Lexer :=
  let c := s.cursor.peek
  let atMargin := s.cursor.column == 0
  if s.cursor.rest.isEmpty then s.readEnd
  else if c == '%' && atMargin then s.readDirectiveLine
  else if atMargin && s.cursor.isMarker '-' then s.readMarker .documentStart
  else if atMargin && s.cursor.isMarker '.' then s.readMarker .documentEnd
  else if c == '[' then s.readOpening .flowSequenceStart
  else if c == '\x7b' then s.readOpening .flowMappingStart
  else if c == ']' then s.readClosing .flowSequenceEnd
  else if c == '\x7d' then s.readClosing .flowMappingEnd
  else if c == ',' then s.readComma
  else if c == '-' && isGapOrEnd (s.cursor.ahead 1) then s.readEntry
  else if c == '?' && s.isIndicator then s.readKey
  else if c == ':' && s.isIndicator then s.readColon
  else if c == '*' then s.readReference .alias
  else if c == '&' then s.readReference .anchor
  else if c == '!' then s.readTagToken
  else if c == '|' && !s.inFlow then s.readBlockScalar false
  else if c == '>' && !s.inFlow then s.readBlockScalar true
  else if c == '\x27' then s.readQuotedScalar false
  else if c == '\x22' then s.readQuotedScalar true
  else if s.beginsPlain then s.readPlainScalar
  else s.fail (.noToken c)

def advance (s : Lexer) : Except Fault Lexer := do
  let s ← (s.skipOrderMark.skipGaps (s.cursor.rest.length + 1)).dropStale
  (s.closeBlocks fun indent => s.cursor.column < indent).readToken

def needsMore (s : Lexer) : Bool :=
  !s.isClosed && (s.waiting.isEmpty || s.candidates.any fun e => e.2.number == s.handedOut)

/-- What a step comes to: something more has been read, a token is handed out, or there are none
left. -/
inductive Step where
  | read (next : Lexer)
  | handOut (t : Token) (next : Lexer)
  | done

/-- Forgets stale candidates if the next token may have been waiting for them. -/
def refresh (s : Lexer) : Except Fault Lexer :=
  if s.isClosed || s.waiting.isEmpty then .ok s else s.dropStale

def step (s : Lexer) : Except Fault Step := do
  let s ← s.refresh
  if s.needsMore then return .read (← s.advance)
  else
    match s.waiting with
    | [] => return .done
    | t :: rest => return .handOut t { s with waiting := rest, handedOut := s.handedOut + 1 }

def run : Nat → Lexer → List Token × Option Fault
  | 0, _ => ([], none)
  | n + 1, s =>
    match s.step with
    | .error fault => ([], some fault)
    | .ok .done => ([], none)
    | .ok (.read next) => run n next
    | .ok (.handOut t next) =>
      let (tokens, fault) := run n next
      (t :: tokens, fault)

end Lexer

/-- Tokens of a text, and the fault that ends them before their time. -/
structure Tokens where
  list : List Token
  fault : Option Fault

/-- Each character brings about at most four tokens and two steps more. -/
def Tokens.ofText (text : List Char) : Tokens :=
  let (list, fault) := (Lexer.start text).run (8 * text.length + 16)
  ⟨list, fault⟩

end HatReel.Yaml
