import HatReel.Decimal.Shortest

/-!
Texts of doubles: the shortest digits, a fixed number of places, and scientific form. Sizes from `10
^ (-4)` up to `10 ^ 16` are written with a point in place, others with an exponent of at least two
digits. Numbers that may be whole or not are written accordingly.
-/

namespace HatReel.Decimal

open HatReel.Binary

def zeros (n : Nat) : List Char := List.replicate n '0'

/-- Digits with the point after the first `point` of them, filled up with zeros on either side. -/
def pointed (digits : List Char) (point : Int) : List Char × List Char :=
  if point ≤ 0 then (['0'], zeros (-point).toNat ++ digits)
  else
    let n := point.toNat
    if digits.length ≤ n then (digits ++ zeros (n - digits.length), [])
    else (digits.take n, digits.drop n)

def exponentText (e : Int) : List Char :=
  let digits := digitChars e.natAbs
  (if e < 0 then '-' else '+') :: (zeros (2 - digits.length) ++ digits)

def isPositional (e : Int) : Bool := -4 ≤ e && e < 16

def Scaled.text (s : Scaled) : List Char :=
  let digits := digitChars s.coefficient
  let point := (digits.length : Int) + s.exponent
  if isPositional (point - 1) then
    let (whole, fraction) := pointed digits point
    whole ++ '.' :: (if fraction.isEmpty then ['0'] else fraction)
  else
    match digits with
    | [] => []
    | first :: rest =>
      (if rest.isEmpty then [first] else first :: '.' :: rest) ++ 'e' :: exponentText (point - 1)

def signText (negative : Bool) : List Char := if negative then ['-'] else []

def shortestText (x : Float) : String :=
  match parts x with
  | .nan => "nan"
  | .infinite negative => if negative then "-inf" else "inf"
  | .finite negative m _ =>
    String.ofList (signText negative ++ (if m = 0 then ['0', '.', '0'] else (shortest x).text))

def fixedText (places : Nat) (x : Float) : String :=
  match parts x with
  | .nan => "nan"
  | .infinite negative => if negative then "-inf" else "inf"
  | .finite negative m e =>
    let (p, q) := quotient m e
    let n := divHalfEven (p * 10 ^ places) q
    let digits := digitChars n
    let digits := zeros (places + 1 - digits.length) ++ digits
    let whole := digits.take (digits.length - places)
    let fraction := digits.drop (digits.length - places)
    String.ofList (signText negative ++ whole ++ (if fraction.isEmpty then [] else '.' :: fraction))

/-- The quotient rounded to `n + 1` digits, and the weight of the first of them. -/
def leading (p q n : Nat) : List Char × Int :=
  let k := magnitude p q
  let (p, q) := scaleDown p q (k - (n + 1))
  let d := divHalfEven p q
  if d = 10 ^ (n + 1) then (digitChars (d / 10), k) else (digitChars d, k - 1)

def scientificText (places : Nat) (x : Float) : String :=
  match parts x with
  | .nan => "nan"
  | .infinite negative => if negative then "-inf" else "inf"
  | .finite negative m e =>
    let (digits, weight) :=
      if m = 0 then (zeros (places + 1), 0)
      else
        let (p, q) := quotient m e
        leading p q places
    let body :=
      match digits with
      | [] => []
      | first :: rest => if rest.isEmpty then [first] else first :: '.' :: rest
    String.ofList (signText negative ++ body ++ 'e' :: exponentText weight)

inductive Number where
  | whole (n : Int)
  | real (x : Float)

def Number.toFloat : Number → Float
  | .whole n => Binary.ofInt n
  | .real x => x

def Number.text : Number → String
  | .whole n => toString n
  | .real x => shortestText x

end HatReel.Decimal
