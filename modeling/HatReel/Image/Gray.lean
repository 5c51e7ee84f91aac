import HatReel.Binary.Double
import HatReel.Image.Frame

/-!
Brightness. A coloured frame is reduced to one channel by fixed weights, and a frame is split into
two values by a threshold.
-/

namespace HatReel.Image

open HatReel.Binary

/-- The weighted mean of three channels, rounded; the weights add up to `2 ^ 15`. -/
def grayLevel (b g r : UInt8) : UInt8 :=
  UInt8.ofNat ((b.toNat * 3735 + g.toNat * 19235 + r.toNat * 9798 + 16384) / 32768)

/-- The brightness of a frame that has three or four channels and is not empty. -/
def Frame.gray? (f : Frame) : Option Frame :=
  if (f.channels == 3 || f.channels == 4) && !f.isEmpty then
    some (Frame.generate f.width f.height 1 fun x y _ =>
      grayLevel (f.byte x y 0) (f.byte x y 1) (f.byte x y 2))
  else none

def saturate (x : Float) : UInt8 :=
  match nearest? x with
  | some n => UInt8.ofNat (max 0 (min 255 n)).toNat
  | none => 0

/-- Bytes above the threshold become the maximum, all others zero. Every byte counts as above a
threshold that is no finite number. -/
def Frame.binarize (f : Frame) (threshold maximum : Float) : Frame :=
  let high := saturate maximum
  let limit := floor? threshold
  f.map fun v =>
    match limit with
    | some t => if t < (v.toNat : Int) then high else 0
    | none => high

end HatReel.Image
