import HatReel.Text.Parts
import HatReel.Yaml.Instant
import HatReel.Yaml.Tag

/-!
Which tag the text of a scalar without quotes implies: the words for null and for switches, numbers
in several bases, also in base sixty, days and instants, and three special marks. All other text is
text.
-/

namespace HatReel.Yaml

open HatReel.Text

def switchWords : List (String × Bool) := [
  ("yes", true), ("no", false), ("true", true), ("false", false), ("on", true), ("off", false)]

/-- A word in small letters, in capitals, or with a capital at its beginning. -/
def letterCases (word : String) : List String :=
  [word, String.ofList (word.toList.map Char.toUpper),
    match word.toList with
    | [] => ""
    | c :: rest => String.ofList (c.toUpper :: rest)]

def isWord (words : List String) (text : List Char) : Bool :=
  (words.flatMap letterCases).contains (String.ofList text)

def isDigitOrBar (c : Char) : Bool := c == '_' || isAsciiDigit c

/-- One digit, or two that are below sixty. -/
def isSixty : List Char → Bool
  | [a] => isAsciiDigit a
  | [a, b] => 48 ≤ a.toNat && a.toNat ≤ 53 && isAsciiDigit b
  | _ => false

/-- Nothing, or such groups, each after a colon. -/
def isSixties (text : List Char) : Bool :=
  match fields ':' text with
  | [] :: groups => groups.all isSixty
  | _ => false

def isDecimalInteger (text : List Char) : Bool :=
  let digits := text.takeWhile isDigitOrBar
  match digits with
  | [] => false
  | c :: _ => isAsciiDigit c && c != '0' && isSixties (text.drop digits.length)

def isIntegerText (text : List Char) : Bool :=
  let (_, body) := Decimal.splitSign text
  match body with
  | '0' :: 'b' :: digits => !digits.isEmpty && digits.all fun c => c == '_' || c == '0' || c == '1'
  | '0' :: 'x' :: digits => !digits.isEmpty && digits.all fun c => c == '_' || isAsciiHex c
  | '0' :: digits => digits.all fun c => c == '_' || (48 ≤ c.toNat && c.toNat ≤ 55)
  | body => isDecimalInteger body

def isExponent : List Char → Bool
  | [] => true
  | [_] => false
  | e :: sign :: digits =>
    (e == 'e' || e == 'E') && (sign == '+' || sign == '-') && !digits.isEmpty &&
      digits.all isAsciiDigit

/-- What follows the point of a number with an exponent. -/
def isFraction (text : List Char) : Bool := isExponent (text.dropWhile isDigitOrBar)

/-- Digits, a point and a fraction; or groups in base sixty before the point. -/
def isPointed (text : List Char) : Bool :=
  let digits := text.takeWhile isDigitOrBar
  digits.head?.any isAsciiDigit &&
    match text.drop digits.length with
    | '.' :: fraction => isFraction fraction
    | ':' :: rest =>
      let groups := rest.takeWhile (· != '.')
      isSixties (':' :: groups) &&
        match rest.drop groups.length with
        | [] => false
        | _ :: fraction => fraction.all isDigitOrBar
    | _ => false

/-- The text of a number with a point. Only digits before the point allow a sign, and infinity. -/
def isFloatText (text : List Char) : Bool :=
  let (_, body) := Decimal.splitSign text
  match body with
  | '.' :: rest =>
    isWord ["inf"] rest ||
      (text.head? == some '.' &&
        ([['n', 'a', 'n'], ['N', 'a', 'N'], ['N', 'A', 'N']].contains rest ||
          (rest.head?.any isAsciiDigit && isFraction rest)))
  | body => isPointed body

def isTimestampText (text : List Char) : Bool :=
  match Instant.ofText? text with
  | some i => i.isPadded || i.time.isSome
  | none => false

def Tag.ofWord (text : List Char) : Tag :=
  if text.isEmpty || text == ['~'] || isWord ["null"] text then .null
  else if isWord (switchWords.map (·.1)) text then .bool
  else if isIntegerText text then .int
  else if isFloatText text then .float
  else if isTimestampText text then .timestamp
  else if text == ['<', '<'] then .merge
  else if text == ['='] then .value
  else if text == ['!'] || text == ['&'] || text == ['*'] then .indicator
  else .str

/-- The tag that a text implies. One line end after it makes no difference, unless it is all there
is. -/
def Tag.implied (text : List Char) : Tag :=
  if text.getLast? == some '\n' then
    if text.length == 1 then .str else .ofWord text.dropLast
  else .ofWord text

end HatReel.Yaml
