import HatReel.Draw.Line

/-!
Smoothed lines and filled convex polygons. Coordinates are fixed-point numbers with sixteen binary
places. A smoothed line covers three pixels across at every step along its longer axis; how strongly
each is coloured depends on the distance from the line, the line's slope and the distance from its
ends.
-/

namespace HatReel.Draw

open HatReel.Image

def one : Int := 65536

def slopeGain : Array Int := #[
  181, 181, 181, 182, 182, 183, 184, 185, 187, 188, 190, 192, 194, 196, 198, 201,
  203, 206, 209, 211, 214, 218, 221, 224, 227, 231, 235, 238, 242, 246, 250, 254]

def fallOff : Array Int := #[
  168, 177, 185, 194, 202, 210, 218, 224, 231, 236, 241, 246, 249, 252, 254, 254,
  254, 254, 252, 249, 246, 241, 236, 231, 224, 218, 210, 202, 194, 185, 177, 168,
  158, 149, 140, 131, 122, 114, 105, 97, 89, 82, 75, 68, 62, 56, 50, 45,
  40, 36, 32, 28, 25, 22, 19, 16, 14, 12, 11, 9, 8, 7, 5, 5]

structure Touch where
  x : Int
  y : Int
  strength : Int
  deriving DecidableEq, Repr

/-- The slope's gain; `step` is the change of the short coordinate per step. -/
def gain (step : Int) : Int :=
  let slope := step / 2048 % 64
  let slope := if step < 0 then 63 - slope else slope
  if 32 ≤ slope then 256 else slopeGain.getD slope.toNat 0

/-- The strengths near the two ends: entry `3 * s + e` is for `s` steps from the start and `e` from
the end, where two stands for two and more. `i` and `j` are the ends' fractions in steps of
eight. -/
def endGains (gain i j : Int) : Array Int :=
  let t0 := gain * 128
  let t1 := (0x78 - i + 4) * gain
  let t2 := (j + 4) * gain
  let cut (v : Int) : Int := v / 256 % 512
  let both := cut (((j - i) % 128 + 4) * gain)
  #[0, both, cut t1, both, cut ((j - i + 0x80 + 4) * gain), cut (t1 + t0), cut t2,
    cut (t2 + t0), gain]

def touchesAt (steep : Bool) (width height gainHere x y : Int) : List Touch :=
  if 0 ≤ x && x < width then
    let row := y / one - 1
    let d := (y / 2048 % 32).toNat
    let mark (o : Int) (f : Int) : List Touch :=
      if 0 ≤ row + o && row + o < height then
        let strength := gainHere * f / 256 % 256
        [if steep then ⟨row + o, x, strength⟩ else ⟨x, row + o, strength⟩]
      else []
    mark 0 (fallOff.getD (d + 32) 0) ++ mark 1 (fallOff.getD d 0) ++
      mark 2 (fallOff.getD (63 - d) 0)
  else []

structure Ramp where
  steep : Bool
  width : Int
  height : Int
  slope : Int
  gains : Array Int

def Ramp.touches (r : Ramp) (s : Nat) (x y : Int) : Nat → List Touch
  | 0 => []
  | n + 1 =>
    let k := min s 2 * 3 + min n 2
    touchesAt r.steep r.width r.height (r.gains.getD k 0) x y ++
      r.touches (s + 1) (x + 1) (y + r.slope) n

def Point.swap (p : Point) : Point := ⟨p.y, p.x⟩

def smoothTouches (width height : Nat) (s : Segment) : List Touch :=
  match clip? (width * one) (height * one) s with
  | none => []
  | some s =>
    let steep := !(decide ((s.b.y - s.a.y).natAbs < (s.b.x - s.a.x).natAbs))
    let s : Segment := if steep then ⟨s.a.swap, s.b.swap⟩ else s
    let s := s.leftToRight
    let dx := s.b.x - s.a.x
    let dy := s.b.y - s.a.y
    let slope := Int.tdiv (dy * one) (if dx % 2 = 0 then dx + 1 else dx)
    let last := s.b.x + one
    let y := s.a.y + slope * -(s.a.x % one) / one + 32768
    let i := s.a.x / 512 / 8 % 16 * 8
    let j := last / 512 / 8 % 16 * 8
    let r : Ramp :=
      ⟨steep, if steep then height else width, if steep then width else height, slope,
        endGains (gain slope) i j⟩
    r.touches 0 (s.a.x / one) y (last / one - s.a.x / one + 1).toNat

/-- Moves a byte toward a value, twice by the given strength. -/
def mix (value strength : Int) (v : UInt8) : UInt8 :=
  let once (v : Int) : Int := v + ((value - v) * strength + 127) / 256
  UInt8.ofNat (once (once v.toNat)).toNat

/-- Mixes one pixel with a colour; only the first four channels change. -/
def touch (f : Frame) (colour : Colour) (t : Touch) : Frame :=
  f.changeChannels t.x.toNat t.y.toNat
    (fun c v => mix (colour.channel c).toNat t.strength v) 0 (min f.channels 4)

def touchAll (f : Frame) (colour : Colour) (ts : List Touch) : Frame :=
  ts.foldl (fun f t => touch f colour t) f

def Point.scaled (p : Point) : Point := ⟨p.x * one, p.y * one⟩

def drawSmooth (f : Frame) (colour : Colour) (s : Segment) : Frame :=
  touchAll f colour (smoothTouches f.width f.height ⟨s.a.scaled, s.b.scaled⟩)

def drawOutline (f : Frame) (colour : Colour) (ps : List Point) : Frame :=
  (List.zipWith Segment.mk (ps.rotateRight 1) ps).foldl (fun f s => drawSmooth f colour s) f

end HatReel.Draw
