import HatReel.Binary.Double
import HatReel.Image.Frame

/-!
Gamma correction by a table with one entry for each byte.
-/

namespace HatReel.Image

open HatReel.Binary

def gammaEntry (power : Float) (i : Nat) : UInt8 :=
  let level := Float.ofNat i / 255.0
  let value := level.pow power * 255.0
  if 255.0 ≤ value then 255
  else
    match nearest? value with
    | some n => UInt8.ofNat (max 0 (min 255 n)).toNat
    | none => 0

/-- The table `out = in ^ (1 / gamma)`; there is none for a gamma of zero. -/
def gammaTable? (gamma : Float) : Option (Vector UInt8 256) :=
  if gamma == 0.0 then none
  else
    let power := 1.0 / gamma
    some (Vector.ofFn fun i => gammaEntry power i.val)

def isNeutral (gamma : Float) : Bool :=
  let distance := (gamma - 1.0).abs
  distance ≤ 1.001e-05

def Frame.lookUp (f : Frame) (table : Vector UInt8 256) : Frame :=
  f.map fun v => table.toArray.getD v.toNat 0

end HatReel.Image
