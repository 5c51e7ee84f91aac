import HatReel.Yaml.Token

/-!
Scalars without quotes. Such a scalar ends before a colon that a gap follows, before a comment, and
in brackets also before an indicator. It may go on over several lines, as long as they are indented
enough and begin no document.
-/

namespace HatReel.Yaml

def isFlowIndicator (c : Char) : Bool :=
  c == ',' || c == '?' || c == '[' || c == ']' || c == '\x7b' || c == '\x7d'

def endsAtColon (inFlow : Bool) (c : Char) : Bool :=
  isGapOrEnd c || (inFlow && c != '?' && isFlowIndicator c)

def plainRun (inFlow : Bool) : List Char → List Char
  | [] => []
  | c :: rest =>
    if isGapOrEnd c || (c == ':' && endsAtColon inFlow (rest.headD '\x00')) ||
        (inFlow && isFlowIndicator c) then []
    else c :: plainRun inFlow rest

/-- A gap inside a plain scalar: what it stands for, nothing if the scalar cannot go on; whether it
goes over the end of a line; and the place behind it. -/
structure PlainGap where
  text : List Char
  crosses : Bool
  next : Cursor

/-- Steps over spaces and line ends. Gives the line ends, or nothing at the beginning of a
document. -/
def plainBreaks : Nat → Cursor → Option (List Char) × Cursor
  | 0, c => (some [], c)
  | n + 1, c =>
    if c.peek == ' ' then plainBreaks n c.step
    else if isBreak c.peek then
      let next := c.step
      if next.isSeparator then (none, next)
      else
        let (breaks, last) := plainBreaks n next
        (breaks.map (breakText c.peek :: ·), last)
    else (some [], c)

/-- The end of one line is a space, and vanishes if empty lines follow; line and paragraph
separators stay. -/
def foldedBreak (first : Char) (more : List Char) : List Char :=
  if first != '\n' then first :: more
  else if more.isEmpty then [' ']
  else more

def plainGap (c : Cursor) : PlainGap :=
  let (spaces, c) := c.run (· == ' ')
  if isBreak c.peek then
    let next := c.step
    if next.isSeparator then ⟨[], true, next⟩
    else
      match plainBreaks (next.rest.length + 1) next with
      | (some breaks, last) => ⟨foldedBreak (breakText c.peek) breaks, true, last⟩
      | (none, last) => ⟨[], true, last⟩
  else ⟨spaces, false, c⟩

/-- Reads on after `gap`, which was `crossed` a line end. -/
def plainFrom (inFlow : Bool) (indent : Nat) : Nat → List Char → Bool → Cursor →
    List Char × Bool × Cursor
  | 0, _, crossed, c => ([], crossed, c)
  | n + 1, gap, crossed, c =>
    let run := plainRun inFlow c.rest
    if c.peek == '#' || run.isEmpty then ([], crossed, c)
    else
      let next := plainGap (c.skip run.length)
      if next.text.isEmpty || next.next.peek == '#' ||
          (!inFlow && next.next.column < indent) then
        (gap ++ run, next.crosses, next.next)
      else
        let (text, crossed, last) := plainFrom inFlow indent n next.text next.crosses next.next
        (gap ++ run ++ text, crossed, last)

/-- Reads a plain scalar: its text, whether a line end was the last thing read, and the place
behind. -/
def readPlain (inFlow : Bool) (indent : Nat) (c : Cursor) : ScalarText × Bool × Cursor :=
  let (text, crossed, last) := plainFrom inFlow indent (c.rest.length + 1) [] false c
  (⟨text, true, false⟩, crossed, last)

end HatReel.Yaml
