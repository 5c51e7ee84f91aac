import HatReel.Binary.Double
import HatReel.Image.Frame
import HatReel.Random.Generator

/-!
Perspective warps. A rotation in space, given by its axis with the angle as length, becomes a map of
the picture plane by a change of coordinates with the focal length; a frame is warped by looking up,
for every pixel, where the inverse map takes it, and mixing the four pixels around that place. The
maps are given by formulas for all kinds of numbers; frames are warped with floating-point numbers.
-/

namespace HatReel.Image

open HatReel.Binary HatReel.Random

structure Matrix (α : Type) where
  m00 : α
  m01 : α
  m02 : α
  m10 : α
  m11 : α
  m12 : α
  m20 : α
  m21 : α
  m22 : α
  deriving DecidableEq, Repr

def Matrix.rows {α : Type} (m : Matrix α) : List (List α) :=
  [[m.m00, m.m01, m.m02], [m.m10, m.m11, m.m12], [m.m20, m.m21, m.m22]]

/-- A direction with a length. Its numbers are floating-point numbers unless others are named. -/
structure Axis (α : Type := Float) where
  x : α
  y : α
  z : α

/-- The functions that a rotation is computed with beside the four operations. -/
class Elementary (α : Type) where
  sqrt : α → α
  cos : α → α
  sin : α → α

instance : Elementary Float := ⟨Float.sqrt, Float.cos, Float.sin⟩

section

variable {α : Type} [Add α] [Sub α] [Mul α] [Div α] [OfScientific α]

def Axis.rotation [Neg α] [LT α] [DecidableLT α] [Elementary α] (v : Axis α) : Matrix α :=
  let angle := Elementary.sqrt (v.x * v.x + v.y * v.y + v.z * v.z)
  if angle < 2.220446049250313e-16 then ⟨1.0, 0.0, 0.0, 0.0, 1.0, 0.0, 0.0, 0.0, 1.0⟩
  else
    let c := Elementary.cos angle
    let s := Elementary.sin angle
    let d := 1.0 - c
    let scale := 1.0 / angle
    let x := v.x * scale
    let y := v.y * scale
    let z := v.z * scale
    ⟨c + d * (x * x), d * (x * y) + s * -z, d * (x * z) + s * y,
      d * (x * y) + s * z, c + d * (y * y), d * (y * z) + s * -x,
      d * (x * z) + s * -y, d * (y * z) + s * x, c + d * (z * z)⟩

/-- A map of space as a map of the picture plane at distance `f`: the column that shifts is
multiplied and the row that divides is divided by the distance. -/
def Matrix.focused (m : Matrix α) (f : α) : Matrix α :=
  { m with m02 := m.m02 * f, m12 := m.m12 * f, m20 := m.m20 / f, m21 := m.m21 / f }

/-- The focal length that belongs to a frame size: half the sum of the sides. -/
def focalLength (size : α) : α := size / 2.0

/-- The homography of the turn about an axis for frames whose sides add up to `size`, where `turn`
says how space is turned about axes. -/
def Axis.homographyBy (turn : Axis α → Matrix α) (v : Axis α) (size : α) : Matrix α :=
  (turn v).focused (focalLength size)

def Axis.homography [Neg α] [LT α] [DecidableLT α] [Elementary α] (v : Axis α) (size : α) :
    Matrix α :=
  v.homographyBy Axis.rotation size

def randomAxis (spread : α) (g : Generator) : Axis α × Generator :=
  let (x, g) := g.next
  let (y, g) := g.next
  let (z, g) := g.next
  (⟨(x - 0.5) * spread, (y - 0.5) * spread, (z - 0.5) * spread⟩, g)

def Matrix.inverse [BEq α] (m : Matrix α) : Matrix α :=
  let d := m.m00 * (m.m11 * m.m22 - m.m12 * m.m21) - m.m01 * (m.m10 * m.m22 - m.m12 * m.m20) +
    m.m02 * (m.m10 * m.m21 - m.m11 * m.m20)
  if d == 0.0 then ⟨0.0, 0.0, 0.0, 0.0, 0.0, 0.0, 0.0, 0.0, 0.0⟩
  else
    let d := 1.0 / d
    ⟨(m.m11 * m.m22 - m.m12 * m.m21) * d, (m.m02 * m.m21 - m.m01 * m.m22) * d,
      (m.m01 * m.m12 - m.m02 * m.m11) * d, (m.m12 * m.m20 - m.m10 * m.m22) * d,
      (m.m00 * m.m22 - m.m02 * m.m20) * d, (m.m02 * m.m10 - m.m00 * m.m12) * d,
      (m.m10 * m.m21 - m.m11 * m.m20) * d, (m.m01 * m.m20 - m.m00 * m.m21) * d,
      (m.m00 * m.m11 - m.m01 * m.m10) * d⟩

/-- Where the map `m` takes the point at column `start + step` and row `row`, in thirty-seconds; the
start is mapped first. What is taken out of the plane counts as zero. -/
@[inline]
def Matrix.target [BEq α] (m : Matrix α) (start step row : α) : α × α :=
  let across := m.m00 * start + m.m01 * row + m.m02
  let along := m.m10 * start + m.m11 * row + m.m12
  let depth := m.m20 * start + m.m21 * row + m.m22 + m.m20 * step
  let scale := if depth == 0.0 then 0.0 else 32.0 / depth
  ((across + m.m00 * step) * scale, (along + m.m10 * step) * scale)

end

/-- The nearest integer of 32 bits; what is no number counts as the largest. -/
def toWord (x : Float) : Int :=
  let x := if x < 2147483647.0 then x else 2147483647.0
  let x := if -2147483648.0 < x then x else -2147483648.0
  (nearest? x).getD 0

def toShort (n : Int) : Int := max (-32768) (min 32767 n)

/-- A place between pixels: the pixel above and to the left, and the fractions in thirty-seconds. -/
structure Place where
  x : Int
  y : Int
  right : Int
  down : Int

def placeOf (x y : Int) : Place := ⟨toShort (x / 32), toShort (y / 32), x % 32, y % 32⟩

/-- Where the map `m` takes the pixel at column `x`, row `y`. Columns are taken in blocks of
`block`. -/
def Matrix.place (m : Matrix Float) (block x y : Nat) : Place :=
  let (across, along) :=
    m.target (Float.ofNat (x - x % block)) (Float.ofNat (x % block)) (Float.ofNat y)
  placeOf (toWord across) (toWord along)

def Frame.byteAt (f : Frame) (x y : Int) (c : Nat) : Int :=
  if 0 ≤ x && 0 ≤ y then (f.byte x.toNat y.toNat c).toNat else 0

def Frame.sample (f : Frame) (p : Place) (c : Nat) : UInt8 :=
  let sum :=
    f.byteAt p.x p.y c * ((32 - p.down) * (32 - p.right) * 32) +
      f.byteAt (p.x + 1) p.y c * ((32 - p.down) * p.right * 32) +
      f.byteAt p.x (p.y + 1) c * (p.down * (32 - p.right) * 32) +
      f.byteAt (p.x + 1) (p.y + 1) c * (p.down * p.right * 32)
  UInt8.ofNat ((sum + 16384) / 32768).toNat

/-- How many columns are mapped from one start. -/
def blockSize (width height : Nat) : Nat := min (1024 / min 16 height) width

def Frame.warp (f : Frame) (m : Matrix Float) : Frame :=
  let inverse := m.inverse
  let block := blockSize f.width f.height
  Frame.generate f.width f.height f.channels fun x y c => f.sample (inverse.place block x y) c

def warpLimit : Nat := 32766

/-- The warped frame, if the frame is neither empty nor too large. -/
def Frame.warp? (f : Frame) (m : Matrix Float) : Option Frame :=
  if f.isEmpty || warpLimit < f.width || warpLimit < f.height then none else some (f.warp m)

end HatReel.Image
