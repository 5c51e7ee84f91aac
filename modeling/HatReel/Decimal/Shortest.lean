import HatReel.Binary.Double

/-!
The shortest decimal that reads back as a given double. For one to seventeen digits the value's two
neighbours on that decimal grid are tried; the first grid with a neighbour that reads back wins, and
of two neighbours the nearer, or the even one if both are equally near.
-/

namespace HatReel.Decimal

open HatReel.Binary

structure Scaled where
  coefficient : Nat
  exponent : Int
  deriving DecidableEq, Repr

def digitChars (n : Nat) : List Char := Nat.toDigits 10 n

/-- The power of ten just above a positive quotient: `10 ^ (k - 1) ≤ p / q < 10 ^ k`. -/
def magnitude (p q : Nat) : Int :=
  let k : Int := ((digitChars p).length : Int) - ((digitChars q).length : Int)
  if q * 10 ^ k.toNat ≤ p * 10 ^ (-k).toNat then k + 1 else k

def scaleDown (p q : Nat) (e : Int) : Nat × Nat := (p * 10 ^ (-e).toNat, q * 10 ^ e.toNat)

def Scaled.code (s : Scaled) : Nat :=
  double.code (s.coefficient * 10 ^ s.exponent.toNat) (10 ^ (-s.exponent).toNat)

def neighbour? (code p q n : Nat) : Option Scaled :=
  let e := magnitude p q - n
  let (p, q) := scaleDown p q e
  let d := p / q
  let below : Scaled := ⟨d, e⟩
  let above : Scaled := ⟨d + 1, e⟩
  match below.code == code, above.code == code with
  | true, true => if divHalfEven p q = d then some below else some above
  | true, false => some below
  | false, true => some above
  | false, false => none

/-- Moves zeros at the end of the coefficient into the exponent, at most `fuel` of them. -/
def dropZeros : Nat → Scaled → Scaled
  | 0, s => s
  | fuel + 1, s =>
    if s.coefficient % 10 = 0 then dropZeros fuel ⟨s.coefficient / 10, s.exponent + 1⟩ else s

def shortestOf (code p q : Nat) : Scaled :=
  let found := (List.range 17).findSome? fun n => neighbour? code p q (n + 1)
  dropZeros 20 (found.getD ⟨p, 0⟩)

def quotient (m : Nat) (e : Int) : Nat × Nat := (shiftUp m e, 2 ^ (-e).toNat)

def shortest (x : Float) : Scaled :=
  match parts x with
  | .finite _ m e =>
    if m = 0 then ⟨0, 0⟩
    else
      let (p, q) := quotient m e
      shortestOf (x.toBits.toNat % 2 ^ 63) p q
  | _ => ⟨0, 0⟩

end HatReel.Decimal
