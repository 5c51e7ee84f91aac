import HatReel.Text.Quoted
import HatReel.Yaml.Implied

/-!
How a text is written so that it reads back as the same text: plain where it cannot be mistaken for
anything else, between single quotes if it is made of printable ASCII characters and line feeds, and
otherwise between double quotes with escapes. Texts are broken at spaces beyond column 80.
-/

namespace HatReel.Yaml

open HatReel.Text

inductive Style where
  | plain
  | single
  | double
  deriving DecidableEq, Repr

def isPrintableAscii (c : Char) : Bool := 0x20 ≤ c.toNat && c.toNat ≤ 0x7e

/-- Whether a character needs an escape wherever it stands. -/
def isSpecial (c : Char) : Bool := !(c == '\n' || isPrintableAscii c)

def hasPair (p q : Char → Bool) : List Char → Bool
  | c :: d :: rest => (p c && q d) || hasPair p q (d :: rest)
  | _ => false

def leadIndicators : List Char := "#,[]\x7b\x7d&*!|>\x27\x22%@\x60".toList

/-- Whether a text begins like something that is no text. -/
def beginsAsIndicator (cs : List Char) : Bool :=
  match cs with
  | [] => false
  | c :: rest =>
    leadIndicators.contains c || cs.take 3 == ['-', '-', '-'] || cs.take 3 == ['.', '.', '.'] ||
      ((c == '?' || c == '-') && isGapOrEnd (rest.headD '\x00'))

/-- Whether a colon before a gap, or a number sign after one, would end the text. -/
def hasInnerIndicator (cs : List Char) : Bool :=
  hasPair (· == ':') isGapOrEnd cs || cs.getLast? == some ':' || hasPair isGapOrEnd (· == '#') cs

def isEdge (c : Char) : Bool := c == ' ' || isBreak c

def allowsPlain (cs : List Char) : Bool :=
  !(cs.head?.any isEdge || cs.getLast?.any isEdge || cs.any isSpecial || cs.any isBreak ||
    beginsAsIndicator cs || hasInnerIndicator cs)

/-- Whether line ends and spaces survive between single quotes. -/
def allowsSingle (cs : List Char) : Bool :=
  !(cs.any isSpecial || hasPair isBreak (· == ' ') cs || hasPair (· == ' ') isBreak cs)

def Style.of (cs : List Char) : Style :=
  if Tag.implied cs == .str && allowsPlain cs then .plain
  else if allowsSingle cs then .single
  else .double

def lineWidth : Nat := 80

def blanks (n : Nat) : List Char := List.replicate n ' '

def newLine (indent : Nat) : List Char := '\n' :: blanks indent

abbrev Layout := Option Nat

/-- Whether a line is broken at a space: a lone one inside the text, beyond the width. -/
def breaksAt (column : Nat) (before : Option Char) (after : List Char) : Bool :=
  lineWidth < column && before.any (· != ' ') && after.head?.any (· != ' ')

def plainBody (layout : Layout) : Nat → Option Char → List Char → List Char
  | _, _, [] => []
  | column, before, c :: rest =>
    match layout with
    | some indent =>
      if c == ' ' && breaksAt column before rest then
        newLine indent ++ plainBody layout indent (some c) rest
      else c :: plainBody layout (column + 1) (some c) rest
    | none => c :: plainBody layout (column + 1) (some c) rest

/-- The body of a text between single quotes. One more line end is written for every run of them. -/
def singleBody (layout : Layout) : Nat → Option Char → List Char → List Char
  | _, _, [] => []
  | column, before, c :: rest =>
    let indent := layout.getD 0
    if c == '\x27' then '\x27' :: '\x27' :: singleBody layout (column + 2) (some c) rest
    else if c == '\n' then
      (if before == some '\n' then [] else ['\n']) ++
        (if rest.head? == some '\n' then ['\n'] else newLine indent) ++
        singleBody layout indent (some c) rest
    else if c == ' ' && layout.isSome && breaksAt column before rest then
      newLine indent ++ singleBody layout indent (some c) rest
    else c :: singleBody layout (column + 1) (some c) rest

def escapeLetters : List (Char × Char) := [
  ('\x00', '0'), ('\x07', 'a'), ('\x08', 'b'), ('\t', 't'), ('\n', 'n'), ('\x0b', 'v'),
  ('\x0c', 'f'), ('\r', 'r'), ('\x1b', 'e'), ('\x22', '\x22'), ('\\', '\\'), ('\x85', 'N'),
  ('\xa0', '_'), ('\u2028', 'L'), ('\u2029', 'P')]

def capitalDigits (n width : Nat) : List Char := (hexDigits n width).map Char.toUpper

def escaped (c : Char) : List Char :=
  let n := c.toNat
  match escapeLetters.lookup c with
  | some letter => ['\\', letter]
  | none =>
    if n < 0x100 then '\\' :: 'x' :: capitalDigits n 2
    else if n < 0x10000 then '\\' :: 'u' :: capitalDigits n 4
    else '\\' :: 'U' :: capitalDigits n 8

def needsEscape (c : Char) : Bool := c == '\x22' || c == '\\' || !isPrintableAscii c

/-- A line end that does not count, and the column behind it. A backslash keeps a space that would
be lost at the beginning of the next line. -/
def softBreak (indent : Nat) (next : Option Char) : List Char × Nat :=
  if next == some ' ' then ('\\' :: newLine indent ++ ['\\'], indent + 1)
  else ('\\' :: newLine indent, indent)

/-- The body of a text between double quotes. Lines are broken before a space, and before or after
an escape. -/
def doubleBody (layout : Layout) : Nat → (isFirst afterEscape : Bool) → List Char → List Char
  | _, _, _, [] => []
  | column, isFirst, afterEscape, c :: rest =>
    let indent := layout.getD 0
    let mayBreak := layout.isSome && !isFirst && !rest.isEmpty
    if needsEscape c then
      let code := escaped c
      let column := column + code.length
      if mayBreak && lineWidth + 1 < column then
        let (gap, column) := softBreak indent rest.head?
        code ++ gap ++ doubleBody layout column false true rest
      else code ++ doubleBody layout column false true rest
    else if mayBreak && (c == ' ' || afterEscape) && lineWidth < column then
      let (gap, column) := softBreak indent (some c)
      gap ++ c :: doubleBody layout (column + 1) false false rest
    else c :: doubleBody layout (column + 1) false false rest

def printText (layout : Layout) (column : Nat) (cs : List Char) : List Char :=
  match Style.of cs with
  | .plain => plainBody layout column none cs
  | .single => '\x27' :: singleBody layout (column + 1) none cs ++ ['\x27']
  | .double => '\x22' :: doubleBody layout (column + 1) true false cs ++ ['\x22']

end HatReel.Yaml
