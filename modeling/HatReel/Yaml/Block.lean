import HatReel.Text.Digit
import HatReel.Yaml.Fault
import HatReel.Yaml.Token

/-!
Scalars as indented blocks. A literal block keeps its line ends; a folded one joins lines that begin
with no gap. The header may fix the indentation and say what becomes of line ends at the end.
-/

namespace HatReel.Yaml

open HatReel.Text

/-- What becomes of line ends at the end of a block: none, one, or all of them stay. -/
inductive Chomping where
  | strip
  | clip
  | keep
  deriving DecidableEq, Repr

def chomping? (c : Char) : Option Chomping :=
  if c == '+' then some .keep else if c == '-' then some .strip else none

def indentationDigit? (c : Cursor) : Except Fault (Option Nat) :=
  if isAsciiDigit c.peek then
    if c.peek == '0' then .error (.character .zeroIndentation c.mark)
    else .ok (some (c.peek.toNat - 48))
  else .ok none

def readBlockHeader (c : Cursor) : Except Fault (Chomping × Option Nat × Cursor) := do
  let (chomping, digit, c) ←
    match chomping? c.peek with
    | some chomping =>
      let c := c.step
      match ← indentationDigit? c with
      | some digit => pure (chomping, some digit, c.step)
      | none => pure (chomping, none, c)
    | none =>
      match ← indentationDigit? c with
      | some digit =>
        let c := c.step
        match chomping? c.peek with
        | some chomping => pure (chomping, some digit, c.step)
        | none => pure (.clip, some digit, c)
      | none => pure (.clip, none, c)
  if isSpaceOrEnd c.peek then return (chomping, digit, c)
  else throw (.character (.unexpected .blockIndicator c.peek) c.mark)

def skipLine (c : Cursor) : Except Fault Cursor :=
  let c := c.skipComment
  if isBreakOrEnd c.peek then .ok c.lineBreak.2
  else .error (.character (.unexpected .commentOrBreak c.peek) c.mark)

/-- Steps over leading spaces and empty lines; gives the line ends and the greatest column seen. -/
def leadingLines : Nat → Cursor → List Char × Nat × Cursor
  | 0, c => ([], 0, c)
  | n + 1, c =>
    if c.peek == ' ' then
      let (breaks, column, last) := leadingLines n c.step
      (breaks, max c.step.column column, last)
    else if isBreak c.peek then
      let (breaks, column, last) := leadingLines n c.step
      (breakText c.peek :: breaks, column, last)
    else ([], 0, c)

def skipIndent (indent : Nat) (c : Cursor) : Cursor :=
  c.skip ((c.rest.take (indent - c.column)).takeWhile (· == ' ')).length

def blockBreaks (indent : Nat) : Nat → Cursor → List Char × Cursor
  | 0, c => ([], c)
  | n + 1, c =>
    let c := skipIndent indent c
    if isBreak c.peek then
      let (breaks, last) := blockBreaks indent n c.step
      (breakText c.peek :: breaks, last)
    else ([], c)

/-- What stands between two lines, of which the first is ended by `lineEnd` and followed by
`breaks`. -/
def lineJoint (isFolded : Bool) (lineEnd breaks : List Char) (afterText beforeText : Bool) :
    List Char :=
  if isFolded && lineEnd == ['\n'] && afterText && beforeText then
    if breaks.isEmpty then [' '] else []
  else lineEnd

/-- Reads lines with the given indentation: their text, the last line end, and the line ends after
it. -/
def blockLines (isFolded : Bool) (indent : Nat) : Nat → List Char → Cursor →
    List Char × List Char × List Char × Cursor
  | 0, breaks, c => ([], [], breaks, c)
  | n + 1, breaks, c =>
    if c.column == indent && !c.rest.isEmpty then
      let (line, rest) := c.run (!isBreak ·)
      let (lineEnd, next) := rest.lineBreak
      let (after, last) := blockBreaks indent (next.rest.length + 1) next
      if last.column == indent && !last.rest.isEmpty then
        let joint := lineJoint isFolded lineEnd after (!isGap c.peek) (!isGap last.peek)
        let (text, finalEnd, finalBreaks, stop) := blockLines isFolded indent n after last
        (breaks ++ line ++ joint ++ text, finalEnd, finalBreaks, stop)
      else (breaks ++ line, lineEnd, after, last)
    else ([], [], breaks, c)

/-- Reads a block scalar from its indicator. The content is indented at least by `least`, and by
one. -/
def readBlock (isFolded : Bool) (least : Nat) (c : Cursor) :
    Except Fault (ScalarText × Cursor) := do
  let (chomping, digit, c) ← readBlockHeader c.step
  let c ← skipLine c
  let least := max least 1
  let (breaks, indent, c) :=
    match digit with
    | none =>
      let (breaks, column, c) := leadingLines (c.rest.length + 1) c
      (breaks, max least column, c)
    | some digit =>
      let indent := least + digit - 1
      let (breaks, c) := blockBreaks indent (c.rest.length + 1) c
      (breaks, indent, c)
  let (text, lineEnd, breaks, last) := blockLines isFolded indent (c.rest.length + 1) breaks c
  let ending :=
    match chomping with
    | .strip => []
    | .clip => lineEnd
    | .keep => lineEnd ++ breaks
  return (⟨text ++ ending, false, false⟩, last)

end HatReel.Yaml
