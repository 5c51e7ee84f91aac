import HatReel.Draw.Clip
import HatReel.Image.Frame

/-!
Thin lines. A segment is cut to the frame and then marked point by point along its longer axis; each
step moves along that axis, and along the other whenever the accumulated error turns negative.
-/

namespace HatReel.Draw

open HatReel.Image

structure March where
  error : Int
  point : Point

/-- The extent of a line along its longer and shorter axis, whether the longer is the vertical one,
and the vertical direction. -/
structure Course where
  long : Int
  short : Int
  isVertical : Bool
  down : Int

def Course.step (k : Course) (m : March) : March :=
  let turns := m.error < 0
  let error := m.error - 2 * k.short + (if turns then 2 * k.long else 0)
  let p := m.point
  if k.isVertical then ⟨error, ⟨if turns then p.x + 1 else p.x, p.y + k.down⟩⟩
  else ⟨error, ⟨p.x + 1, if turns then p.y + k.down else p.y⟩⟩

def Course.points (k : Course) : Nat → March → List Point
  | 0, _ => []
  | n + 1, m => m.point :: k.points n (k.step m)

def Segment.leftToRight (s : Segment) : Segment := if s.b.x < s.a.x then ⟨s.b, s.a⟩ else s

def Segment.course (s : Segment) : Course :=
  let dx := s.b.x - s.a.x
  let dy := s.b.y - s.a.y
  let height := (dy.natAbs : Int)
  let down := if dy < 0 then -1 else 1
  if dx < height then ⟨height, dx, true, down⟩ else ⟨dx, height, false, down⟩

def Segment.points (s : Segment) : List Point :=
  let s := s.leftToRight
  let k := s.course
  k.points (k.long + 1).toNat ⟨k.long - 2 * k.short, s.a⟩

def Segment.pointsWithin (width height : Nat) (s : Segment) : List Point :=
  match clip? width height s with
  | some inner => inner.points
  | none => []

def paintPoint (f : Frame) (colour : Colour) (p : Point) : Frame :=
  if 0 ≤ p.x && 0 ≤ p.y then f.paint colour p.x.toNat p.y.toNat else f

def paintPoints (f : Frame) (colour : Colour) (ps : List Point) : Frame :=
  ps.foldl (fun f p => paintPoint f colour p) f

def sides (ps : List Point) : List Segment := List.zipWith Segment.mk ps (ps.rotateLeft 1)

def drawPolygon (f : Frame) (colour : Colour) (ps : List Point) : Frame :=
  (sides ps).foldl (fun f s => paintPoints f colour (s.pointsWithin f.width f.height)) f

end HatReel.Draw
