/-!
Rounding a quotient of natural numbers to a binary floating-point format. A format's non-negative
values are numbered upwards by codes; the code of the value nearest to a quotient is computed
exactly, and a quotient half way between two values goes to the even code.
-/

-- A power of a natural number is the one of the language itself, also where a larger library has a
-- second reading of it.
attribute [instance (2000), default_instance 20000] instPowNat

namespace HatReel.Binary

def divHalfEven (p q : Nat) : Nat :=
  let d := p / q
  let r := p % q
  if 2 * r < q then d else if q < 2 * r then d + 1 else d + d % 2

/-- A format: how many bits a significand has, the exponent of the smallest value, and the code of
infinity. -/
structure Format where
  precision : Nat
  lowest : Int
  infinity : Nat

def double : Format := ⟨53, -1074, 2047 * 2 ^ 52⟩

def single : Format := ⟨24, -149, 255 * 2 ^ 23⟩

/-- `n` times two to the `e`, where a negative `e` counts as zero. -/
def shiftUp (n : Nat) (e : Int) : Nat := n * 2 ^ e.toNat

def Format.exponent (f : Format) (p q : Nat) : Int :=
  let e : Int := (p.log2 : Int) - (q.log2 : Int) - ((f.precision : Int) - 1)
  let e := if shiftUp p (-e) < shiftUp q e * 2 ^ (f.precision - 1) then e - 1 else e
  max e f.lowest

def Format.code (f : Format) (p q : Nat) : Nat :=
  if p = 0 then 0
  else
    let e := f.exponent p q
    let n := divHalfEven (shiftUp p (-e)) (shiftUp q e)
    min f.infinity ((e - f.lowest).toNat * 2 ^ (f.precision - 1) + n)

end HatReel.Binary
