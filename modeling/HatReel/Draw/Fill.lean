import HatReel.Draw.Smooth

/-!
Filled convex polygons. Two edges run down the polygon from its top corner, one each way round;
every row between them is filled. Rows above the frame are passed over at once.
-/

namespace HatReel.Draw

open HatReel.Image

/-- One of the two edges: the corner it has reached, how the corner's number changes to get to the
next one, the row where it ends, its position on the current row and the change from row to row. -/
structure Edge where
  corner : Nat
  turn : Nat
  bottom : Int
  x : Int
  slope : Int

structure Span where
  y : Nat
  first : Nat
  last : Nat
  deriving DecidableEq, Repr

/-- Follows the corners from number `i` until one lies below row `y`. The count of corners that both
edges may still use is returned too; there is no edge when they are used up. -/
def nextEdge (corners : Array Point) (turn : Nat) (y : Int) : Nat → Nat → Option (Edge × Nat)
  | 0, _ => none
  | left + 1, i =>
    let j := (i + turn) % corners.size
    let p := corners.getD i ⟨0, 0⟩
    let q := corners.getD j ⟨0, 0⟩
    if y < q.y then
      let a := p.x * one
      let b := q.x * one
      some (⟨j, turn, q.y, a, Int.tdiv ((b - a) * 2 + (q.y - y)) (2 * (q.y - y))⟩, left)
    else nextEdge corners turn y left j

structure Front where
  left : Edge
  right : Edge
  corners : Nat

def Front.renew (corners : Array Point) (y : Int) (f : Front) : Option Front := do
  let (left, n) ←
    if f.left.bottom ≤ y then nextEdge corners f.left.turn y f.corners f.left.corner
    else some (f.left, f.corners)
  let (right, n) ←
    if f.right.bottom ≤ y then nextEdge corners f.right.turn y n f.right.corner
    else some (f.right, n)
  some ⟨left, right, n⟩

def Front.descend (rows : Int) (f : Front) : Front :=
  { f with
    left := { f.left with x := f.left.x + f.left.slope * rows }
    right := { f.right with x := f.right.x + f.right.slope * rows } }

def Front.span? (width : Nat) (y : Int) (f : Front) : Option Span :=
  let a := (min f.left.x f.right.x + one - 1) / one
  let b := max f.left.x f.right.x / one
  if 0 ≤ y && 0 ≤ b && a < width && max a 0 ≤ min b (width - 1) then
    some ⟨y.toNat, (max a 0).toNat, (min b (width - 1)).toNat⟩
  else none

/-- How many rows may be passed over from row `y` on: those above the frame on which no edge
ends. -/
def Front.rows (y : Int) (f : Front) : Int :=
  if y < 0 then max 1 (min 0 (min f.left.bottom f.right.bottom) - y) else 1

/-- The filled parts of the rows from `y` down to `bottom`, at most `fuel` visits of a row. -/
def fillRows (corners : Array Point) (width : Nat) (top bottom : Int) :
    Nat → Int → Front → List Span
  | 0, _, _ => []
  | fuel + 1, y, f =>
    let renewed := if y < bottom || y == top then f.renew corners y else some f
    match renewed with
    | none => []
    | some f =>
      let rows := f.rows y
      (f.span? width y).toList ++
        (if y + rows ≤ bottom then
          fillRows corners width top bottom fuel (y + rows) (f.descend rows)
        else [])

def lowest (vs : List Int) : Int := vs.foldl min (vs.headD 0)

def highest (vs : List Int) : Int := vs.foldl max (vs.headD 0)

def fillSpans (width height : Nat) (ps : List Point) : List Span :=
  let xs := ps.map Point.x
  let ys := ps.map Point.y
  let top := lowest ys
  let bottom := min (highest ys) (height - 1)
  if highest xs < 0 || highest ys < 0 || (width : Int) ≤ lowest xs || (height : Int) ≤ top then []
  else
    let first := ys.findIdx (· == top)
    let edge (turn : Nat) : Edge := ⟨first, turn, top, -one, 0⟩
    fillRows ps.toArray width top bottom (height + ps.length + 4) top
      ⟨edge 1, edge (ps.length - 1), ps.length⟩

def paintSpan (f : Frame) (colour : Colour) (s : Span) : Frame :=
  (List.range' s.first (s.last + 1 - s.first)).foldl (fun f x => f.paint colour x s.y) f

def fillPolygon (f : Frame) (colour : Colour) (ps : List Point) : Frame :=
  (fillSpans f.width f.height ps).foldl (fun f s => paintSpan f colour s) (drawOutline f colour ps)

end HatReel.Draw
