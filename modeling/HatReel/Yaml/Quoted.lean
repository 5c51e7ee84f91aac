import HatReel.Text.Digit
import HatReel.Yaml.Fault
import HatReel.Yaml.Plain

/-!
Scalars in quotes. Between single quotes a quote is written twice; between double quotes a backslash
begins an escape. The end of a line is folded as in plain scalars.
-/

namespace HatReel.Yaml

open HatReel.Text

def escapes : List (Char × Char) := [
  ('0', '\x00'), ('a', '\x07'), ('b', '\x08'), ('t', '\t'), ('\t', '\t'), ('n', '\n'),
  ('v', '\x0b'), ('f', '\x0c'), ('r', '\r'), ('e', '\x1b'), (' ', ' '), ('\x22', '\x22'),
  ('\\', '\\'), ('/', '/'), ('N', '\x85'), ('_', '\xa0'), ('L', '\u2028'), ('P', '\u2029')]

def escape? (c : Char) : Option Char := (escapes.find? fun e => e.1 == c).map (·.2)

def codeLength? (c : Char) : Option Nat :=
  if c == 'x' then some 2 else if c == 'u' then some 4 else if c == 'U' then some 8 else none

structure Piece where
  text : List Char
  isBroken : Bool := false

/-- Steps over gaps and line ends, giving the line ends. No document may begin here. -/
def quotedBreaks : Nat → Cursor → Except Fault (List Char × Cursor)
  | 0, c => .ok ([], c)
  | n + 1, c =>
    if c.isSeparator then .error (.character .separatorInQuote c.mark)
    else
      let c := c.skipWhile isGap
      if isBreak c.peek then do
        let (breaks, last) ← quotedBreaks n c.step
        return (breakText c.peek :: breaks, last)
      else .ok ([], c)

def quotedGap (c : Cursor) : Except Fault (Piece × Cursor) :=
  let (blanks, c) := c.run isGap
  if c.rest.isEmpty then .error (.character .openQuote c.mark)
  else if isBreak c.peek then do
    let (breaks, last) ← quotedBreaks (c.rest.length + 1) c.step
    return (⟨foldedBreak (breakText c.peek) breaks, false⟩, last)
  else .ok (⟨blanks, false⟩, c)

/-- The character of a code. Codes of surrogates are no characters. -/
def codePiece (code : Nat) : Except Fault Piece :=
  if 0x10ffff < code then .error (.codePoint code)
  else if 0xd800 ≤ code && code < 0xe000 then .ok ⟨['\ufffd'], true⟩
  else .ok ⟨[Char.ofNat code], false⟩

def readCode (digits : Nat) (c : Cursor) : Except Fault (Piece × Cursor) :=
  match (c.rest.take digits).find? (!isAsciiHex ·) with
  | some found => .error (.character (.unexpected (.escape digits) found) c.mark)
  | none =>
    if c.rest.length < digits then
      .error (.character (.unexpected (.escape digits) '\x00') c.mark)
    else do
      let code := Decimal.ofDigits 16 ((c.rest.take digits).filterMap asciiDigitValue?)
      return (← codePiece code, c.skip digits)

def readEscape (c : Cursor) : Except Fault (Piece × Cursor) :=
  match escape? c.peek with
  | some ch => .ok (⟨[ch], false⟩, c.step)
  | none =>
    match codeLength? c.peek with
    | some digits => readCode digits c.step
    | none =>
      if isBreak c.peek then do
        let (breaks, last) ← quotedBreaks (c.rest.length + 1) c.step
        return (⟨breaks, false⟩, last)
      else .error (.character (.unknownEscape c.peek) c.mark)

def quotedFrom (isDouble : Bool) : Nat → Cursor → Except Fault (Piece × Cursor)
  | 0, c => .error (.character .openQuote c.mark)
  | n + 1, c =>
    let quote := if isDouble then '\x22' else '\x27'
    let goOn (step : Piece × Cursor) : Except Fault (Piece × Cursor) := do
      let (more, last) ← quotedFrom isDouble n step.2
      return (⟨step.1.text ++ more.text, step.1.isBroken || more.isBroken⟩, last)
    if c.peek == quote then
      if !isDouble && c.ahead 1 == quote then goOn (⟨[quote], false⟩, c.skip 2)
      else .ok (⟨[], false⟩, c.step)
    else if isGapOrEnd c.peek then do goOn (← quotedGap c)
    else if isDouble && c.peek == '\\' then do goOn (← readEscape c.step)
    else goOn (⟨[c.peek], false⟩, c.step)

def readQuoted (isDouble : Bool) (c : Cursor) : Except Fault (ScalarText × Cursor) := do
  let (piece, last) ← quotedFrom isDouble (c.rest.length + 1) c.step
  return (⟨piece.text, false, piece.isBroken⟩, last)

end HatReel.Yaml
