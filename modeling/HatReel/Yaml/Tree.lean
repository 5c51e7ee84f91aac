import HatReel.Yaml.Lexer
import HatReel.Yaml.Node

/-!
Nodes from tokens. A document holds one root. Blocks and brackets nest; keys and values may be left
out, and an alias stands for the node that its anchor was put on before.
-/

namespace HatReel.Yaml

structure Reading where
  tokens : Tokens
  handles : List (String × String) := []
  nodes : Nodes := #[]
  anchors : List (String × Nat) := []

abbrev Read := StateT Reading (Except Fault)

namespace Read

def fail {α : Type} (fault : TokenFault) (place : Mark) : Read α := throw (.token fault place)

/-- The next token. There is one up to the end of the text. -/
def peek : Read Token := do
  let tokens := (← get).tokens
  match tokens.list with
  | t :: _ => return t
  | [] =>
    match tokens.fault with
    | some fault => throw fault
    | none => return ⟨.streamEnd, ⟨0, 0, 0⟩, ⟨0, 0, 0⟩⟩

def skip : Read Unit :=
  modify fun s => { s with tokens := { s.tokens with list := s.tokens.list.tail } }

def add (node : Node) : Read Nat := do
  let s ← get
  set { s with nodes := s.nodes.push node }
  return s.nodes.size

def addEmpty (place : Mark) : Read Nat := add ⟨.null, place, .scalar emptyText⟩

def addAnchored (anchor : Option String) (node : Node) : Read Nat := do
  match anchor with
  | none => add node
  | some name =>
    if ((← get).anchors.lookup name).isSome then throw (.reference .secondAnchor node.start)
    let id ← add node
    modify fun s => { s with anchors := (name, id) :: s.anchors }
    return id

def setContent (id : Nat) (content : Content) : Read Unit :=
  modify fun s => { s with nodes := s.nodes.setContent id content }

structure Properties where
  anchor : Option String := none
  tag : Option (Option String × String × Mark) := none
  start : Option Mark := none

def anchorProperty (p : Properties) : Read Properties := do
  let t ← peek
  match t.kind with
  | .anchor name =>
    skip
    return { p with anchor := some name, start := p.start.or (some t.start) }
  | _ => return p

def tagProperty (p : Properties) : Read Properties := do
  let t ← peek
  match t.kind with
  | .tag handle suffix =>
    skip
    return { p with tag := some (handle, suffix, t.start), start := p.start.or (some t.start) }
  | _ => return p

def properties : Read Properties := do
  let p ← anchorProperty {}
  if p.anchor.isSome then tagProperty p
  else
    let p ← tagProperty p
    if p.tag.isSome then anchorProperty p else return p

def resolve (p : Properties) : Read (Option String) := do
  match p.tag with
  | none => return none
  | some (none, suffix, _) => return some suffix
  | some (some handle, suffix, place) =>
    match (← get).handles.lookup handle with
    | some stem => return some (stem ++ suffix)
    | none => fail (.unknownHandle handle) place

/-- Reads a node, unless the next token is one of those that show that it is left out. -/
def nodeUnless (absent : TokenKind → Bool) (place : Mark) (node : Read Nat) : Read Nat := do
  if absent (← peek).kind then addEmpty place else node

def valueUnless (absent : TokenKind → Bool) (node : Read Nat) : Read Nat := do
  let t ← peek
  match t.kind with
  | .value =>
    skip
    nodeUnless absent t.stop node
  | _ => addEmpty t.start

def blockItems (node : Read Nat) : Nat → Read (List Nat)
  | 0 => return []
  | n + 1 => do
    let t ← peek
    match t.kind with
    | .blockEntry =>
      skip
      let item ← nodeUnless (fun k => k == .blockEntry || k == .blockEnd) t.stop node
      return item :: (← blockItems node n)
    | .blockEnd =>
      skip
      return []
    | kind => fail (.openBlock kind.label) t.start

/-- The items of a sequence that is not indented; it ends where no item begins. -/
def flatItems (node : Read Nat) : Nat → Read (List Nat)
  | 0 => return []
  | n + 1 => do
    let t ← peek
    match t.kind with
    | .blockEntry =>
      skip
      let item ← nodeUnless
        (fun k => k == .blockEntry || k == .key || k == .value || k == .blockEnd) t.stop node
      return item :: (← flatItems node n)
    | _ => return []

def blockPairs (node : Read Nat) : Nat → Read (List (Nat × Nat))
  | 0 => return []
  | n + 1 => do
    let absent (k : TokenKind) : Bool := k == .key || k == .value || k == .blockEnd
    let t ← peek
    match t.kind with
    | .key =>
      skip
      let key ← nodeUnless absent t.stop node
      let value ← valueUnless absent node
      return (key, value) :: (← blockPairs node n)
    | .blockEnd =>
      skip
      return []
    | kind => fail (.openBlock kind.label) t.start

def comma (isFirst : Bool) (fault : String → TokenFault) : Read Unit := do
  if !isFirst then
    let t ← peek
    if t.kind == .flowEntry then skip else fail (fault t.kind.label) t.start

def lonePair (node : Read Nat) (t : Token) : Read Nat := do
  let absent (k : TokenKind) : Bool := k == .flowEntry || k == .flowSequenceEnd
  skip
  let key ← nodeUnless (fun k => k == .value || absent k) t.stop node
  let value ← valueUnless absent node
  add ⟨.map, t.start, .mapping [(key, value)]⟩

def flowItems (node : Read Nat) : Bool → Nat → Read (List Nat)
  | _, 0 => return []
  | isFirst, n + 1 => do
    if (← peek).kind == .flowSequenceEnd then
      skip
      return []
    comma isFirst .openFlowSequence
    let t ← peek
    match t.kind with
    | .key =>
      let item ← lonePair node t
      return item :: (← flowItems node false n)
    | .flowSequenceEnd =>
      skip
      return []
    | _ =>
      let item ← node
      return item :: (← flowItems node false n)

def flowPairs (node : Read Nat) : Bool → Nat → Read (List (Nat × Nat))
  | _, 0 => return []
  | isFirst, n + 1 => do
    let absent (k : TokenKind) : Bool := k == .flowEntry || k == .flowMappingEnd
    if (← peek).kind == .flowMappingEnd then
      skip
      return []
    comma isFirst .openFlowMapping
    let t ← peek
    match t.kind with
    | .key =>
      skip
      let key ← nodeUnless (fun k => k == .value || absent k) t.stop node
      let value ← valueUnless absent node
      return (key, value) :: (← flowPairs node false n)
    | .flowMappingEnd =>
      skip
      return []
    | _ =>
      let key ← node
      let value ← addEmpty (← peek).start
      return (key, value) :: (← flowPairs node false n)

/-- Where a node may stand: in a block, there also with a sequence that is not indented, or in
brackets. -/
inductive Position where
  | block
  | blockOrFlat
  | flow
  deriving DecidableEq, Repr

/-- Reads a collection whose first token has been looked at. Its node is there before its content,
so that aliases inside can lead to it. -/
def collect (anchor : Option String) (tag : Tag) (start : Mark) (read : Nat → Read Content) :
    Read Nat := do
  let id ← addAnchored anchor ⟨tag, start, .sequence []⟩
  setContent id (← read ((← get).tokens.list.length + 1))
  return id

def node : Nat → Position → Read Nat
  | 0, _ => addEmpty ⟨0, 0, 0⟩
  | fuel + 1, position => do
    let t ← peek
    match t.kind with
    | .alias name =>
      skip
      match (← get).anchors.lookup name with
      | some id => return id
      | none => throw (.reference (.unknownAlias name) t.start)
    | _ =>
      let p ← properties
      let given ← resolve p
      let t ← peek
      let start := p.start.getD t.start
      let sequence (read : Nat → Read (List Nat)) : Read Nat :=
        collect p.anchor (collectionTag given .seq) start fun n => .sequence <$> read n
      let mapping (read : Nat → Read (List (Nat × Nat))) : Read Nat :=
        collect p.anchor (collectionTag given .map) start fun n => .mapping <$> read n
      let other : Read Nat :=
        if p.anchor.isSome || given.isSome then
          addAnchored p.anchor ⟨scalarTag given emptyText, start, .scalar emptyText⟩
        else fail (.noContent t.kind.label) t.start
      match t.kind with
      | .blockEntry =>
        if position == .blockOrFlat then sequence (flatItems (node fuel .block)) else other
      | .scalar s =>
        skip
        addAnchored p.anchor ⟨scalarTag given s, start, .scalar s⟩
      | .flowSequenceStart =>
        sequence fun n => skip *> flowItems (node fuel .flow) true n
      | .flowMappingStart =>
        mapping fun n => skip *> flowPairs (node fuel .flow) true n
      | .blockSequenceStart =>
        if position == .flow then other
        else sequence fun n => skip *> blockItems (node fuel .block) n
      | .blockMappingStart =>
        if position == .flow then other
        else mapping fun n => skip *> blockPairs (node fuel .blockOrFlat) n
      | _ => other

def standardHandles : List (String × String) := [("!", "!"), ("!!", Tag.standardStem)]

/-- Reads directives; `hasVersion` tells whether one has named a version. -/
def directives (hasVersion : Bool) : Nat → Read Unit
  | 0 => pure ()
  | n + 1 => do
    let t ← peek
    match t.kind with
    | .directive d =>
      skip
      match d with
      | .version major _ =>
        if hasVersion then fail .secondVersion t.start
        if major != 1 then fail .unknownVersion t.start
        directives true n
      | .tag handle stem =>
        if ((← get).handles.lookup handle).isSome then fail (.secondHandle handle) t.start
        modify fun s => { s with handles := (handle, stem) :: s.handles }
        directives hasVersion n
      | .other => directives hasVersion n
    | _ => pure ()

def skipDocumentEnds : Nat → Read Unit
  | 0 => pure ()
  | n + 1 => do
    if (← peek).kind == .documentEnd then
      skip
      skipDocumentEnds n

/-- Reads what is before the content of a document with a marker, and says where it begins; nothing
at the end of the text. -/
def opening : Read (Option Mark) := do
  let n := (← get).tokens.list.length + 1
  skipDocumentEnds n
  let t ← peek
  if t.kind == .streamEnd then return none
  modify fun s => { s with handles := [] }
  directives false n
  modify fun s => { s with handles := s.handles ++ standardHandles }
  let marker ← peek
  if marker.kind != .documentStart then fail (.noDocument marker.kind.label) marker.start
  skip
  return some t.start

def markedRoot (fuel : Nat) : Read Nat := do
  let t ← peek
  match t.kind with
  | .directive _ | .documentStart | .documentEnd | .streamEnd => addEmpty t.start
  | _ => node fuel .block

def firstRoot : Read (Option Nat) := do
  let fuel := (← get).tokens.list.length + 1
  skip
  let t ← peek
  match t.kind with
  | .directive _ | .documentStart | .streamEnd =>
    match ← opening with
    | none => return none
    | some _ => some <$> markedRoot fuel
  | _ =>
    modify fun s => { s with handles := standardHandles }
    some <$> node fuel .block

def document : Read (Option Nat) := do
  match ← firstRoot with
  | none => return none
  | some root =>
    match ← opening with
    | none => return some root
    | some place => throw (.reference .secondDocument place)

end Read

def isAllowed (c : Char) : Bool :=
  let n := c.toNat
  n == 9 || n == 10 || n == 13 || (0x20 ≤ n && n ≤ 0x7e) || n == 0x85 ||
    (0xa0 ≤ n && n ≤ 0xfffd) || 0x10000 ≤ n

def readNodes (text : List Char) : Except Fault (Nodes × Option Nat) := do
  match text.findIdx? (!isAllowed ·) with
  | some position => throw (.unprintable position)
  | none =>
    let (root, reading) ← Read.document.run { tokens := .ofText text }
    return (reading.nodes, root)

end HatReel.Yaml
