import HatReel.Decimal.Printer
import HatReel.Image.Warp

/-!
A matrix as text, in columns of equal width with the points below each other. Each entry has its
shortest digits, but at most six behind the point; if the sizes differ too much, all are written in
scientific form with equally many digits.
-/

namespace HatReel.Image

open HatReel.Binary HatReel.Decimal

/-- How many digits behind the point are written at most. -/
def places : Nat := 6

/-- A finite entry before alignment: sign, digits before the point, digits behind it, and the
exponent in scientific form. -/
structure Entry where
  negative : Bool
  whole : List Char
  fraction : List Char
  exponent : Int

def dropTrailing (cs : List Char) : List Char := (cs.reverse.dropWhile (· == '0')).reverse

def positionalEntry (x : Float) : Option Entry :=
  match parts x with
  | .finite negative m e =>
    if m = 0 then some ⟨negative, ['0'], [], 0⟩
    else
      let s := shortest x
      let digits := digitChars s.coefficient
      let (whole, fraction) := pointed digits ((digits.length : Int) + s.exponent)
      if fraction.length ≤ places then some ⟨negative, whole, fraction, 0⟩
      else
        let (p, q) := quotient m e
        let n := digitChars (divHalfEven (p * 10 ^ places) q)
        let n := zeros (places + 1 - n.length) ++ n
        let count := n.length - places
        some ⟨negative, n.take count, dropTrailing (n.drop count), 0⟩
  | _ => none

def scientificEntry (x : Float) : Option Entry :=
  match parts x with
  | .finite negative m e =>
    if m = 0 then some ⟨negative, ['0'], [], 0⟩
    else
      let s := shortest x
      let digits := digitChars s.coefficient
      let (digits, weight) :=
        if digits.length ≤ places + 1 then (digits, (digits.length : Int) + s.exponent - 1)
        else
          let (p, q) := quotient m e
          leading p q places
      some ⟨negative, digits.take 1, dropTrailing (digits.drop 1), weight⟩
  | _ => none

/-- Whether the sizes of the entries that are finite and not zero ask for scientific form. -/
def isWide (xs : List Float) : Bool :=
  let sizes := (xs.filter fun x => isFinite x && x != 0.0).map Float.abs
  match sizes with
  | [] => false
  | first :: rest =>
    let largest := rest.foldl (fun a b => if a < b then b else a) first
    let smallest := rest.foldl (fun a b => if b < a then b else a) first
    1e16 ≤ largest || smallest < 1e-4 || 1000.0 < largest / smallest

def longest (ns : List Nat) : Nat := ns.foldl max 0

def spaces (n : Nat) : List Char := List.replicate n ' '

/-- The widths of the parts of all entries: before the point with the sign, behind it, and of the
exponent's digits if there is one. -/
structure Columns where
  before : Nat
  behind : Nat
  exponent : Option Nat

def Columns.tail (k : Columns) : Nat :=
  match k.exponent with
  | some n => k.behind + n + 3
  | none => k.behind + 1

def Entry.head (t : Entry) : List Char := signText t.negative ++ t.whole

def exponentDigits (e : Int) : List Char := (exponentText e).drop 1

def Entry.text (k : Columns) (t : Entry) : List Char :=
  let head := spaces (k.before - t.head.length) ++ t.head ++ ['.']
  match k.exponent with
  | none => head ++ t.fraction ++ spaces (k.behind - t.fraction.length)
  | some n =>
    let digits := exponentDigits t.exponent
    head ++ t.fraction ++ zeros (k.behind - t.fraction.length) ++
      'e' :: (if t.exponent < 0 then '-' else '+') :: (zeros (n - digits.length) ++ digits)

def wordOf (x : Float) : List Char := (shortestText x).toList

def Matrix.text (m : Matrix Float) : String :=
  let xs := m.rows.flatten
  let wide := isWide xs
  let entry (x : Float) : Option Entry := if wide then scientificEntry x else positionalEntry x
  let entries := xs.filterMap entry
  let fitted : Columns :=
    ⟨longest (entries.map fun t => t.head.length), longest (entries.map fun t => t.fraction.length),
      if wide then some (longest (entries.map fun t => (exponentDigits t.exponent).length))
      else none⟩
  let words := (xs.filter fun x => !isFinite x).map fun x => (wordOf x).length - fitted.tail
  let k : Columns := { fitted with before := max fitted.before (longest words) }
  let cell (x : Float) : List Char :=
    match entry x with
    | some t => t.text k
    | none => spaces (k.before + k.tail - (wordOf x).length) ++ wordOf x
  let row (r : List Float) : List Char := '[' :: [' '].intercalate (r.map cell) ++ [']']
  String.ofList ('[' :: ['\n', ' '].intercalate (m.rows.map row) ++ [']'])

end HatReel.Image
