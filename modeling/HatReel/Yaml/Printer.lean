import HatReel.Decimal.Printer
import HatReel.Document.Value
import HatReel.Yaml.Style

/-!
Documents as text, in blocks. A mapping has one entry on a line, and the mapping or text in it two
columns further right; items of a sequence in a mapping stand in the same column as its keys.
-/

namespace HatReel.Yaml

open HatReel.Decimal HatReel.Document

/-- A number that need not be whole. It always has a point, so that it reads back as such a
number. -/
def realText (x : Float) : List Char :=
  match Binary.parts x with
  | .nan => ".nan".toList
  | .infinite negative => (if negative then "-.inf" else ".inf").toList
  | .finite .. =>
    let text := (shortestText x).toList
    if text.contains '.' then text
    else text.flatMap fun c => if c == 'e' then ['.', '0', 'e'] else [c]

/-- A value on one line, with texts laid out as given; collections are shown empty. -/
def scalarText (layout : Layout) (column : Nat) : Value → List Char
  | .null => "null".toList
  | .bool b => (if b then "true" else "false").toList
  | .int n => (toString n).toList
  | .float x => realText x
  | .text s => printText layout column s.toList
  | .list _ | .tuple _ | .set _ => "[]".toList
  | .map _ => "\x7b\x7d".toList
  | .bytes _ | .date | .brokenText => []

/-- Keys on one line, not empty and shorter than this, stand before a colon; all others after a
question mark. -/
def keyWidth : Nat := 123

def isShortKey : Value → Bool
  | .text s => !s.isEmpty && !s.toList.any isBreak && s.length < keyWidth
  | _ => true

/-- A line end and the indentation, or one space where a collection begins behind a dash. -/
def lead (isInline : Bool) (indent : Nat) : List Char := if isInline then [' '] else newLine indent

mutual

/-- A value behind a colon or a dash; `isKeyed` tells whether it is a colon on the key's line. -/
def behind (isKeyed : Bool) (indent column : Nat) : Value → List Char
  | .list (item :: items) =>
    let inner := if isKeyed then indent else indent + 2
    lead (!isKeyed) inner ++ '-' :: behind false inner (inner + 1) item ++ printItems inner items
  | .tuple (item :: items) =>
    let inner := if isKeyed then indent else indent + 2
    lead (!isKeyed) inner ++ '-' :: behind false inner (inner + 1) item ++ printItems inner items
  | .map (entry :: entries) =>
    lead (!isKeyed) (indent + 2) ++ printEntry (indent + 2) entry ++
      printEntries (indent + 2) entries
  | v => ' ' :: scalarText (some (indent + 2)) (column + 1) v

def printItems (indent : Nat) : List Value → List Char
  | [] => []
  | item :: items =>
    newLine indent ++ '-' :: behind false indent (indent + 1) item ++ printItems indent items

def printEntry (indent : Nat) : Value × Value → List Char
  | (key, value) =>
    if isShortKey key then
      let text := scalarText none indent key
      text ++ ':' :: behind true indent (indent + text.length + 1) value
    else
      '?' :: ' ' :: scalarText (some (indent + 2)) (indent + 2) key ++ newLine indent ++
        ':' :: behind false indent (indent + 1) value

def printEntries (indent : Nat) : List (Value × Value) → List Char
  | [] => []
  | entry :: entries => newLine indent ++ printEntry indent entry ++ printEntries indent entries

end

def printMapping : List (Value × Value) → String
  | [] => "\x7b\x7d\n"
  | entry :: entries => String.ofList (printEntry 0 entry ++ printEntries 0 entries ++ ['\n'])

end HatReel.Yaml
