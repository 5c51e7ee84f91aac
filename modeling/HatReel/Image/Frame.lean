/-!
Pictures of bytes. A frame has a size and a number of channels, and exactly one byte for each
channel of each pixel, row by row. Reading outside gives zero, writing outside changes nothing, and
no operation changes the size.
-/

namespace HatReel.Image

structure Frame where
  width : Nat
  height : Nat
  channels : Nat
  bytes : Vector UInt8 (height * width * channels)
  deriving DecidableEq

/-- The values of the first three channels; further channels are zero. -/
structure Colour where
  blue : UInt8
  green : UInt8
  red : UInt8
  deriving DecidableEq, Repr

def Colour.channel (k : Colour) : Nat → UInt8
  | 0 => k.blue
  | 1 => k.green
  | 2 => k.red
  | _ => 0

def blue : Colour := ⟨255, 0, 0⟩

def green : Colour := ⟨0, 255, 0⟩

def red : Colour := ⟨0, 0, 255⟩

namespace Frame

def generate (width height channels : Nat) (value : Nat → Nat → Nat → UInt8) : Frame where
  width := width
  height := height
  channels := channels
  bytes := Vector.ofFn fun i =>
    value (i.val / channels % width) (i.val / channels / width) (i.val % channels)

def hasByte (f : Frame) (x y c : Nat) : Bool := x < f.width && y < f.height && c < f.channels

def offset (f : Frame) (x y c : Nat) : Nat := (y * f.width + x) * f.channels + c

def byte (f : Frame) (x y c : Nat) : UInt8 :=
  if f.hasByte x y c then f.bytes.toArray.getD (f.offset x y c) 0 else 0

def setByte (f : Frame) (x y c : Nat) (value : UInt8) : Frame :=
  if f.hasByte x y c then
    let i := f.offset x y c
    match f with
    | ⟨width, height, channels, bytes⟩ => ⟨width, height, channels, bytes.setIfInBounds i value⟩
  else f

def map (f : Frame) (g : UInt8 → UInt8) : Frame where
  width := f.width
  height := f.height
  channels := f.channels
  bytes := f.bytes.map g

/-- Rewrites the channels from `c` on, `n` of them, by their old values. -/
def changeChannels (f : Frame) (x y : Nat) (g : Nat → UInt8 → UInt8) (c : Nat) : Nat → Frame
  | 0 => f
  | n + 1 => changeChannels (f.setByte x y c (g c (f.byte x y c))) x y g (c + 1) n

def paint (f : Frame) (colour : Colour) (x y : Nat) : Frame :=
  f.changeChannels x y (fun c _ => colour.channel c) 0 f.channels

def isEmpty (f : Frame) : Bool := f.width == 0 || f.height == 0

def toList (f : Frame) : List UInt8 := f.bytes.toList

@[simp] theorem setByte_width (f : Frame) (x y c : Nat) (v : UInt8) :
    (f.setByte x y c v).width = f.width := by
  unfold setByte
  split <;> rfl

@[simp] theorem setByte_height (f : Frame) (x y c : Nat) (v : UInt8) :
    (f.setByte x y c v).height = f.height := by
  unfold setByte
  split <;> rfl

@[simp] theorem setByte_channels (f : Frame) (x y c : Nat) (v : UInt8) :
    (f.setByte x y c v).channels = f.channels := by
  unfold setByte
  split <;> rfl

theorem setByte_outside {f : Frame} {x y c : Nat} (v : UInt8) (h : f.hasByte x y c = false) :
    f.setByte x y c v = f := by
  simp [setByte, h]

theorem byte_outside {f : Frame} {x y c : Nat} (h : f.hasByte x y c = false) :
    f.byte x y c = 0 := by
  simp [byte, h]

end Frame

end HatReel.Image
