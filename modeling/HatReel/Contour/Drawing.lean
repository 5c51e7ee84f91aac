import HatReel.Binary.Double
import HatReel.Contour.Trace
import HatReel.Draw.Line
import HatReel.Image.Gray

/-!
The contours of the bright parts of a picture, drawn onto a frame as blue polygons with fewer
corners.

A closed polygon is simplified in three steps. Two corners far apart split it into two arcs; an arc
is cut at the corner furthest from its chord until that corner is near enough, and only the arcs'
first corners are kept. At last corners are dropped that lie almost on the line between their
neighbours. Every corner kept is a corner of the given polygon.
-/

namespace HatReel.Contour

open HatReel.Binary HatReel.Draw HatReel.Image

/-! The length of a closed polygon: each side's length in single precision, the sum in double
precision. -/

def sideLength (p q : Point) : Float :=
  let dx := singleOfInt (q.x - p.x)
  let dy := singleOfInt (q.y - p.y)
  widen (dx * dx + dy * dy).sqrt

/-- The sum of the sides, starting with the one from the last corner to the first. -/
def perimeter (ps : List Point) : Float :=
  if ps.length ≤ 1 then 0.0
  else (List.zipWith sideLength (ps.rotateRight 1) ps).foldl (· + ·) 0.0

/-! Simplifying a polygon. -/

/-- Whether a natural number is at most a double, compared exactly. -/
def atMost (n : Nat) (x : Float) : Bool :=
  match parts x with
  | .finite negative m e =>
    if negative then n = 0 && m = 0 else n * 2 ^ (-e).toNat ≤ shiftUp m e
  | .infinite negative => !negative
  | .nan => false

def sub (p q : Point) : Point := ⟨p.x - q.x, p.y - q.y⟩

def dot (p q : Point) : Int := p.x * q.x + p.y * q.y

def cross (p q : Point) : Int := p.y * q.x - p.x * q.y

def norm (p : Point) : Nat := (dot p p).toNat

/-- A closed polygon whose corners are numbered from zero, and on beyond the last in a circle. -/
def corner (ps : Array Point) (i : Nat) : Point := ps.getD (i % ps.size) ⟨0, 0⟩

/-- The greatest of the values of the numbers from `j` on, `n` of them, and the first number that
has it; the numbers before `j` gave `best`. -/
def furthest (value : Nat → Nat) : Nat → Nat → Nat × Nat → Nat × Nat
  | 0, _, best => best
  | n + 1, j, best =>
    let v := value j
    furthest value n (j + 1) (if best.1 < v then (v, j) else best)

/-- The corner furthest from corner `start`, as a number of steps from it; `steps` if all
coincide. -/
def furthestFrom (ps : Array Point) (start steps : Nat) : Nat × Nat :=
  furthest (fun j => norm (sub (corner ps (start + j)) (corner ps start)))
    (ps.size - 1) 1 (0, steps)

/-- Three times the corner furthest from the last one found: gives the last start, the number of
steps from it to its furthest corner, and their squared distance. -/
def diameter (ps : Array Point) : Nat × Nat × Nat :=
  let first := furthestFrom ps 0 0
  let second := furthestFrom ps first.2 first.2
  let start := first.2 + second.2
  let third := furthestFrom ps start second.2
  (start, third.2, third.1)

/-- The squared distance of a point from a chord, times the chord's squared length. -/
def chordDistance (a b p : Point) : Nat :=
  let d := sub b a
  let length := norm d
  let along := dot (sub p a) d
  if along < 0 then norm (sub p a) * length
  else if (length : Int) < along then norm (sub p b) * length
  else (cross (sub p a) d).natAbs ^ 2

/-- Keeps corners of the arc that begins at corner `i` and is `n` steps long, `tolerance` being the
square of the distance allowed. An arc that returns to its first point has no chord. -/
def keepArc (ps : Array Point) (tolerance : Float) (i n : Nat) : Option (List Point) :=
  let a := corner ps i
  if n ≤ 1 then some [a]
  else
    let b := corner ps (i + n)
    let length := norm (sub b a)
    if length = 0 then none
    else
      let best := furthest (fun j => chordDistance a b (corner ps (i + j))) (n - 1) 1 (0, 0)
      if atMost best.1 (tolerance * ofInt length) then some [a]
      else if _h : 0 < best.2 ∧ best.2 < n then
        match keepArc ps tolerance i best.2 with
        | none => none
        | some head => (keepArc ps tolerance (i + best.2) (n - best.2)).map (head ++ ·)
      else some [a]
termination_by n
decreasing_by
  · exact _h.2
  · exact Nat.sub_lt (by omega) _h.1

/-- Corners kept so far, in a circle that is rewritten while it is read. -/
structure Pruning where
  corners : Array Point
  read : Nat
  write : Nat
  kept : Nat
  start : Point
  middle : Point

/-- Whether the middle of three corners is so near to the line through the others that it is
dropped. -/
def isSpare (tolerance : Float) (a p b : Point) : Bool :=
  let d := sub b a
  let off := (cross (sub p a) d).natAbs
  atMost (off * off) (0.5 * tolerance * ofInt (norm d)) && d.x != 0 && d.y != 0 &&
    0 ≤ dot (sub p a) (sub b p)

def prune (tolerance : Float) : Nat → Pruning → Pruning
  | 0, s => s
  | n + 1, s =>
    if s.kept ≤ 2 then s
    else
      let size := s.corners.size
      let b := corner s.corners s.read
      let write := (s.write + 1) % size
      if isSpare tolerance s.start s.middle b then
        let corners := s.corners.setIfInBounds s.write b
        let middle := corner corners (s.read + 1)
        prune tolerance (n - 1) ⟨corners, (s.read + 2) % size, write, s.kept - 1, b, middle⟩
      else
        let corners := s.corners.setIfInBounds s.write s.middle
        prune tolerance n ⟨corners, (s.read + 1) % size, write, s.kept, s.middle, b⟩

def pruned (tolerance : Float) (kept : List Point) : List Point :=
  let corners := kept.toArray
  let m := corners.size
  let first := m - 1
  let s : Pruning :=
    ⟨corners, (first + 2) % m, (first + 1) % m, m, corner corners first, corner corners (first + 1)⟩
  let s := prune tolerance m s
  (s.corners.toList).take s.kept

/-- The tolerances in use: not negative, and below a limit. -/
def isTolerance (epsilon : Float) : Bool := !(epsilon < 0.0) && epsilon < 1e30

def simplify? (ps : List Point) (epsilon : Float) : Option (List Point) :=
  if !(isTolerance epsilon) then none
  else if ps.isEmpty then some []
  else
    let corners := ps.toArray
    let tolerance := epsilon * epsilon
    let (start, steps, distance) := diameter corners
    if atMost distance tolerance then some (pruned tolerance [corner corners start])
    else
      match keepArc corners tolerance start steps with
      | none => none
      | some head =>
        (keepArc corners tolerance (start + steps) (corners.size - steps)).map fun tail =>
          pruned tolerance (head ++ tail)

def approximate? (ps : List Point) (ratio : Float) : Option (List Point) :=
  simplify? ps (perimeter ps * ratio)

/-! Drawing the polygons of a picture. -/

/-- How contours are found: bytes above the threshold become the maximum, and polygons may leave
their contours by a share of the perimeter. -/
structure Style where
  threshold : Float
  maximum : Float
  ratio : Float

/-- The polygons of the bright parts, if the picture has one channel and the style fits. -/
def polygons? (gray : Frame) (style : Style) : Option (List (List Point)) :=
  (contours? (gray.binarize style.threshold style.maximum)).bind fun found =>
    found.mapM fun c => approximate? c style.ratio

def drawPolygons (f : Frame) (ps : List (List Point)) : Frame :=
  ps.foldl (fun f p => drawPolygon f blue p) f

def drawContours? (f gray : Frame) (style : Style) : Option (List (List Point) × Frame) :=
  (polygons? gray style).map fun ps => (ps, drawPolygons f ps)

end HatReel.Contour
