import HatReel.Binary.Rounding

/-!
Double precision numbers by their parts. Conversions to and from integers and quotients go through
the bits, so each is exact or rounded once to the nearest value.
-/

namespace HatReel.Binary

/-- A number is a sign, a significand and a power of two, or it is infinite or no number. -/
inductive Parts where
  | finite (negative : Bool) (significand : Nat) (exponent : Int)
  | infinite (negative : Bool)
  | nan
  deriving DecidableEq, Repr

def partsOfBits (bits : Nat) : Parts :=
  let negative := bits / 2 ^ 63 == 1
  let exponent : Nat := bits / 2 ^ 52 % 2048
  let fraction := bits % 2 ^ 52
  if exponent == 2047 then if fraction == 0 then .infinite negative else .nan
  else if exponent == 0 then .finite negative fraction (-1074)
  else .finite negative (fraction + 2 ^ 52) ((exponent : Int) - 1075)

def parts (x : Float) : Parts := partsOfBits x.toBits.toNat

def ofCode (negative : Bool) (code : Nat) : Float :=
  Float.ofBits (UInt64.ofNat (if negative then code + 2 ^ 63 else code))

def ofRatio (negative : Bool) (p q : Nat) : Float := ofCode negative (double.code p q)

def ofInt (n : Int) : Float := ofRatio (n < 0) n.natAbs 1

def ofInt? (n : Int) : Option Float :=
  if double.code n.natAbs 1 < double.infinity then some (ofInt n) else none

def notANumber : Float := Float.ofBits 0x7ff8000000000000

def infinity (negative : Bool) : Float := ofCode negative double.infinity

def isFinite (x : Float) : Bool :=
  match parts x with
  | .finite .. => true
  | _ => false

def signed (negative : Bool) (n : Nat) : Int := if negative then -(n : Int) else n

/-- The integer part, if the number is finite: what is left after dropping the fraction. -/
def truncate? (x : Float) : Option Int :=
  match parts x with
  | .finite negative m e => some (signed negative (shiftUp m e / 2 ^ (-e).toNat))
  | _ => none

def floor? (x : Float) : Option Int :=
  match parts x with
  | .finite negative m e => some (Int.fdiv (signed negative (shiftUp m e)) (2 ^ (-e).toNat))
  | _ => none

def nearest? (x : Float) : Option Int :=
  match parts x with
  | .finite negative m e => some (signed negative (divHalfEven (shiftUp m e) (2 ^ (-e).toNat)))
  | _ => none

def integer? (x : Float) : Option Int :=
  match parts x with
  | .finite negative m e =>
    if shiftUp m e % 2 ^ (-e).toNat = 0 then some (signed negative (shiftUp m e / 2 ^ (-e).toNat))
    else none
  | _ => none

def singleOfInt (n : Int) : Float32 :=
  Float32.ofBits (UInt32.ofNat
    (if n < 0 then single.code n.natAbs 1 + 2 ^ 31 else single.code n.natAbs 1))

/-- A finite non-negative single precision number as a double. -/
def widen (x : Float32) : Float :=
  let bits := x.toBits.toNat
  let exponent := bits / 2 ^ 23 % 256
  let fraction := bits % 2 ^ 23
  if exponent == 255 then if fraction == 0 then infinity (bits / 2 ^ 31 == 1) else notANumber
  else if exponent == 0 then ofRatio (bits / 2 ^ 31 == 1) fraction (2 ^ 149)
  else
    ofRatio (bits / 2 ^ 31 == 1) ((fraction + 2 ^ 23) * 2 ^ exponent) (2 ^ 150)

end HatReel.Binary
