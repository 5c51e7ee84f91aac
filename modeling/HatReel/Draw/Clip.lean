import HatReel.Binary.Rounding

/-!
Cutting a segment at the borders of a rectangle whose low corner is the origin. The new coordinates
are quotients in double precision, rounded after the product and after the division, and then toward
zero.
-/

namespace HatReel.Draw

open HatReel.Binary

structure Point where
  x : Int
  y : Int
  deriving DecidableEq, Repr

structure Segment where
  a : Point
  b : Point
  deriving DecidableEq, Repr

/-- A positive quotient rounded to double precision, as a quotient again. -/
def roundQuotient (p q : Nat) : Nat × Nat :=
  let e := double.exponent p q
  let n := divHalfEven (shiftUp p (-e)) (shiftUp q e)
  (shiftUp n e, 2 ^ (-e).toNat)

def scaledQuotient (a b c : Int) : Int :=
  if a = 0 || b = 0 || c = 0 then 0
  else
    let (p, q) := roundQuotient (a.natAbs * b.natAbs) 1
    let (p, q) := roundQuotient p (q * c.natAbs)
    let n : Int := (p / q : Nat)
    if (a < 0) != ((b < 0) != (c < 0)) then -n else n

inductive Side where
  | below
  | inside
  | above
  deriving DecidableEq, Repr

def side (high v : Int) : Side := if v < 0 then .below else if high < v then .above else .inside

def Side.border (s : Side) (high : Int) : Int :=
  match s with
  | .below => 0
  | _ => high

def cutVertical (bottom : Int) (a b : Point) : Point :=
  match side bottom a.y with
  | .inside => a
  | s =>
    let y := s.border bottom
    ⟨a.x + scaledQuotient (y - a.y) (b.x - a.x) (b.y - a.y), y⟩

def cutHorizontal (right : Int) (a b : Point) : Point :=
  match side right a.x with
  | .inside => a
  | s =>
    let x := s.border right
    ⟨x, a.y + scaledQuotient (x - a.x) (b.y - a.y) (b.x - a.x)⟩

def sameSide (s t : Side) : Bool := s == t && s != .inside

def isBeyond (right bottom : Int) (s : Segment) : Bool :=
  sameSide (side right s.a.x) (side right s.b.x) || sameSide (side bottom s.a.y) (side bottom s.b.y)

/-- The part of a segment inside a rectangle of the given size, if there is one: first the ends are
moved onto the horizontal borders, then what is still beyond a vertical border is moved there. -/
def clip? (width height : Int) (s : Segment) : Option Segment :=
  let right := width - 1
  let bottom := height - 1
  if width ≤ 0 || height ≤ 0 || isBeyond right bottom s then none
  else
    let a := cutVertical bottom s.a s.b
    let b := cutVertical bottom s.b a
    if sameSide (side right a.x) (side right b.x) then none
    else
      let c := cutHorizontal right a b
      some ⟨c, cutHorizontal right b c⟩

end HatReel.Draw
