/-!
A place in the text of a document: what is still to be read, and how many characters, lines and
columns lie behind. Lines end with a line feed, a next-line character, or a line or paragraph
separator.
-/

namespace HatReel.Yaml

/-- A position that a fault or a token refers to. -/
structure Mark where
  index : Nat
  line : Nat
  column : Nat
  deriving DecidableEq, Repr

def isBreak (c : Char) : Bool := c == '\n' || c == '\x85' || c == '\u2028' || c == '\u2029'

/-- The end of the text reads as NUL, which no document holds. -/
def isBreakOrEnd (c : Char) : Bool := c == '\x00' || isBreak c

def isSpaceOrEnd (c : Char) : Bool := c == ' ' || isBreakOrEnd c

def isGap (c : Char) : Bool := c == ' ' || c == '\t'

def isGapOrEnd (c : Char) : Bool := c == '\t' || isSpaceOrEnd c

/-- What a line end stands for: the first two kinds are one and the same. -/
def breakText (c : Char) : Char := if c == '\x85' then '\n' else c

/-- The characters of names: of anchors, tag handles and directives. -/
def isNameChar (c : Char) : Bool :=
  let n := c.toNat
  (48 ≤ n && n ≤ 57) || (65 ≤ n && n ≤ 90) || (97 ≤ n && n ≤ 122) || c == '-' || c == '_'

structure Cursor where
  rest : List Char
  index : Nat := 0
  line : Nat := 0
  column : Nat := 0
  deriving DecidableEq, Repr

namespace Cursor

def mark (c : Cursor) : Mark := ⟨c.index, c.line, c.column⟩

def peek (c : Cursor) : Char := c.rest.headD '\x00'

def ahead (c : Cursor) (n : Nat) : Char := (c.rest[n]?).getD '\x00'

/-- Steps over one character. A byte order mark has no width. -/
def step (c : Cursor) : Cursor :=
  match c.rest with
  | [] => c
  | ch :: rest =>
    if isBreak ch then ⟨rest, c.index + 1, c.line + 1, 0⟩
    else ⟨rest, c.index + 1, c.line, if ch == '\ufeff' then c.column else c.column + 1⟩

def skip : Nat → Cursor → Cursor
  | 0, c => c
  | n + 1, c => skip n c.step

def skipWhile (p : Char → Bool) (c : Cursor) : Cursor := c.skip (c.rest.takeWhile p).length

def run (p : Char → Bool) (c : Cursor) : List Char × Cursor :=
  let cs := c.rest.takeWhile p
  (cs, c.skip cs.length)

def lineBreak (c : Cursor) : List Char × Cursor :=
  if isBreak c.peek then ([breakText c.peek], c.step) else ([], c)

/-- Whether three of the given character stand here, set off by a gap or the end of the text. -/
def isMarker (ch : Char) (c : Cursor) : Bool :=
  c.rest.take 3 == [ch, ch, ch] && isGapOrEnd (c.ahead 3)

def isSeparator (c : Cursor) : Bool := c.isMarker '-' || c.isMarker '.'

def skipComment (c : Cursor) : Cursor :=
  let c := c.skipWhile (· == ' ')
  if c.peek == '#' then c.skipWhile (!isBreak ·) else c

theorem rest_step (c : Cursor) : c.step.rest = c.rest.tail := by
  unfold step
  cases h : c.rest with
  | nil => simp [h]
  | cons ch rest => simp only; split <;> rfl

theorem rest_skip (n : Nat) (c : Cursor) : (c.skip n).rest = c.rest.drop n := by
  induction n generalizing c with
  | zero => simp [skip]
  | succ n ih => simp [skip, ih, rest_step]

end Cursor

end HatReel.Yaml
