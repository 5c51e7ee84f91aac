import HatReel.Text.Digit
import HatReel.Text.Parts
import HatReel.Text.Quoted

/-!
Integers as text. Digits of every script count, single underscores may stand between digits, and
blanks may surround the whole. A text in base ten with more than 4300 digits is refused before it is
evaluated.
-/

namespace HatReel.Decimal

open HatReel.Text

inductive IntegerFault where
  | malformed (base : Nat) (text : List Char)
  | tooLong (digits : Nat)
  deriving DecidableEq, Repr

def digitLimit : Nat := 4300

def IntegerFault.message : IntegerFault → String
  | .malformed base text =>
    s!"invalid literal for int() with base {base}: " ++
      String.ofList ((quotedChars text).take 200)
  | .tooLong digits =>
    s!"Exceeds the limit ({digitLimit} digits) for integer string conversion: " ++
      s!"value has {digits} digits; use sys.set_int_max_str_digits() to increase the limit"

/-- A character as a reader of numbers sees it: digits of other scripts become ASCII digits, blanks
beyond ASCII become spaces, and everything else beyond ASCII is one character that no number has. -/
def plainChar (c : Char) : Char :=
  if c.toNat < 128 then c
  else if isWhiteSpace c then ' '
  else
    match decimalValue? c with
    | some d => Char.ofNat (48 + d)
    | none => '?'

def ofDigits (base : Nat) (digits : List Nat) : Nat :=
  digits.foldl (fun n d => n * base + d) 0

def splitSign : List Char → Bool × List Char
  | '-' :: rest => (true, rest)
  | '+' :: rest => (false, rest)
  | cs => (false, cs)

def digitIn? (base : Nat) (c : Char) : Option Nat :=
  (asciiDigitValue? c).filter (· < base)

def dropBaseMark (base : Nat) : List Char → List Char
  | '0' :: c :: rest =>
    let mark := lowerMark c
    if (base == 16 && mark == 'x') || (base == 8 && mark == 'o') || (base == 2 && mark == 'b') then
      match rest with
      | '_' :: rest => rest
      | rest => rest
    else '0' :: c :: rest
  | cs => cs
where
  lowerMark (c : Char) : Char :=
    if 65 ≤ c.toNat && c.toNat ≤ 90 then Char.ofNat (c.toNat + 32) else c

/-- Whether every underscore stands between two characters that satisfy `p`. -/
def separates (p : Char → Bool) : List Char → Bool
  | [] => true
  | [c] => c != '_'
  | c :: d :: rest => c != '_' && (d != '_' || (p c && (rest.head?.any p))) &&
      (if d == '_' then separates p rest else separates p (d :: rest))

def readInteger (base : Nat) (text : List Char) : Except IntegerFault Int :=
  let (negative, body) := splitSign ((text.map plainChar).dropWhile isWhiteSpace)
  let body := dropBaseMark base body
  let isMember (c : Char) : Bool := c == '_' || (digitIn? base c).isSome
  let run := body.takeWhile isMember
  let digits := run.filterMap (digitIn? base)
  if digits.isEmpty || !(separates (fun c => (digitIn? base c).isSome) run) then
    .error (.malformed base text)
  else if base == 10 && digitLimit < digits.length then .error (.tooLong digits.length)
  else if (body.dropWhile isMember).all isWhiteSpace then
    let n := ofDigits base digits
    .ok (if negative then -(n : Int) else n)
  else .error (.malformed base text)

end HatReel.Decimal
