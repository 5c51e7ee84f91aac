import HatReel.Binary.Double
import HatReel.Decimal.Integer

/-!
Decimal fractions as text: an optional sign, then digits with an optional point and exponent, or the
word for infinity or for no number. The value is the nearest double, computed exactly.
-/

namespace HatReel.Decimal

open HatReel.Text HatReel.Binary

/-- The double nearest to `n * 10 ^ e`. Exponents that can only overflow or vanish are not raised to
a power. -/
def ofScaled (negative : Bool) (n : Nat) (length : Nat) (e : Int) : Float :=
  if n = 0 then ofCode negative 0
  else if 400 < (length : Int) + e then infinity negative
  else if (length : Int) + e < -400 then ofCode negative 0
  else ofRatio negative (n * 10 ^ e.toNat) (10 ^ (-e).toNat)

def digitValues (cs : List Char) : List Nat := cs.filterMap (digitIn? 10)

def readExponent : List Char → Option Int
  | [] => some 0
  | c :: rest =>
    if c == 'e' || c == 'E' then
      let (negative, digits) := splitSign rest
      if digits.isEmpty || !(digits.all isAsciiDigit) then none
      else
        let n := ofDigits 10 (digitValues digits)
        some (if negative then -(n : Int) else n)
    else none

def readFraction (negative : Bool) (cs : List Char) : Option Float :=
  let whole := cs.takeWhile isAsciiDigit
  let rest := cs.dropWhile isAsciiDigit
  let (fraction, rest) :=
    match rest with
    | '.' :: tail => (tail.takeWhile isAsciiDigit, tail.dropWhile isAsciiDigit)
    | _ => ([], rest)
  if whole.isEmpty && fraction.isEmpty then none
  else
    let digits := (digitValues whole ++ digitValues fraction).dropWhile (· == 0)
    (readExponent rest).map fun e =>
      ofScaled negative (ofDigits 10 digits) digits.length (e - fraction.length)

def lowerWord (cs : List Char) : String :=
  String.ofList (cs.map fun c =>
    if 65 ≤ c.toNat && c.toNat ≤ 90 then Char.ofNat (c.toNat + 32) else c)

def readNumber (cs : List Char) : Option Float :=
  let (negative, body) := splitSign cs
  let word := lowerWord body
  if word == "inf" || word == "infinity" then some (infinity negative)
  else if word == "nan" then some notANumber
  else readFraction negative body

/-- Reads a number that blanks may surround and whose digits single underscores may separate. -/
def readFloat (cs : List Char) : Option Float :=
  let body := trimWith isWhiteSpace (cs.map plainChar)
  if separates isAsciiDigit body then readNumber (body.filter (· != '_')) else none

end HatReel.Decimal
