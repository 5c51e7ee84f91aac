import HatReel.Draw.Fill

/-!
Boxes and hats. A face is a rectangle; it is marked by a red box and, on top of it, a green
triangle. A picture library takes coordinates of 32 bits, so a face too far out is refused: a box
before anything of it is drawn, a hat after its box.
-/

namespace HatReel.Draw

open HatReel.Image

structure Rect where
  x : Int
  y : Int
  width : Int
  height : Int
  deriving DecidableEq, Repr

def fitsWord (n : Int) : Bool := -2147483648 ≤ n && n ≤ 2147483647

def fitsLong (n : Int) : Bool := -9223372036854775808 ≤ n && n ≤ 9223372036854775807

inductive FaceFault where
  | boxOutOfRange
  | hatOutOfRange (coordinate : Int)
  deriving DecidableEq, Repr

def FaceFault.message : FaceFault → String
  | .boxOutOfRange => ""
  | .hatOutOfRange n =>
    if fitsLong n then s!"Python integer {n} out of bounds for int32"
    else "Python int too large to convert to C long"

/-- The corners of a face's hat: two beyond the upper corners of the box, and the tip. -/
def Rect.hat (r : Rect) : List Point := [
  ⟨r.x - r.width.fdiv 10, r.y - r.height.fdiv 10⟩,
  ⟨r.x + (r.width * 11).fdiv 10, r.y - r.height.fdiv 10⟩,
  ⟨r.x + r.width.fdiv 2, r.y - r.height.fdiv 2⟩]

def coordinates (ps : List Point) : List Int := ps.flatMap fun p => [p.x, p.y]

def Rect.hat? (r : Rect) : Except FaceFault (List Point) :=
  match (coordinates r.hat).find? (fun n => !fitsWord n) with
  | some n => .error (.hatOutOfRange n)
  | none => .ok r.hat

def Rect.corners (r : Rect) : List Point := [
  ⟨r.x, r.y⟩, ⟨r.x + r.width, r.y⟩, ⟨r.x + r.width, r.y + r.height⟩, ⟨r.x, r.y + r.height⟩]

def Rect.boxFits (r : Rect) : Bool := (coordinates r.corners).all fitsWord

def drawFace (f : Frame) (r : Rect) : Frame × Option FaceFault :=
  if r.boxFits then
    let boxed := drawOutline f red r.corners
    match r.hat? with
    | .ok hat => (fillPolygon boxed green hat, none)
    | .error fault => (boxed, some fault)
  else (f, some .boxOutOfRange)

def drawFaces (f : Frame) : List Rect → Frame × Option FaceFault
  | [] => (f, none)
  | r :: rest =>
    match drawFace f r with
    | (f, none) => drawFaces f rest
    | (f, some fault) => (f, some fault)

end HatReel.Draw
