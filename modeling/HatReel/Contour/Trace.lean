import HatReel.Draw.Clip
import HatReel.Image.Frame

/-!
Contours of a picture of two kinds of pixels, zero and not. The rows are scanned for borders that
have not been followed yet; each border is followed around once, and its points where the direction
changes are kept. The marks left on followed pixels tell later scans which borders are known.
-/

namespace HatReel.Contour

open HatReel.Draw HatReel.Image

/-- What is known of a pixel: zero, not followed yet, followed, or followed with zero to its
right. -/
inductive Mark where
  | blank
  | fresh
  | border
  | rightEdge
  deriving DecidableEq, Repr

structure Grid where
  size : Nat
  marks : Array Mark

namespace Grid

def get (g : Grid) (x y : Nat) : Mark := g.marks.getD (y * g.size + x) .blank

def set (g : Grid) (x y : Nat) (m : Mark) : Grid :=
  match g with
  | ⟨size, marks⟩ => ⟨size, marks.setIfInBounds (y * size + x) m⟩

def isSet (g : Grid) (p : Nat × Nat) : Bool := g.get p.1 p.2 != .blank

def ofFrame (f : Frame) : Grid where
  size := f.width + 2
  marks := Array.ofFn (n := (f.height + 2) * (f.width + 2)) fun i =>
    let x := i.val % (f.width + 2)
    let y := i.val / (f.width + 2)
    if x = 0 || y = 0 then .blank
    else if f.byte (x - 1) (y - 1) 0 == 0 then .blank else .fresh

end Grid

/-- The neighbour in direction `s`: zero is to the right, two up, four to the left, six down. -/
def neighbour (p : Nat × Nat) (s : Nat) : Nat × Nat :=
  let (x, y) := p
  match s % 8 with
  | 0 => (x + 1, y)
  | 1 => (x + 1, y - 1)
  | 2 => (x, y - 1)
  | 3 => (x - 1, y - 1)
  | 4 => (x - 1, y)
  | 5 => (x - 1, y + 1)
  | 6 => (x, y + 1)
  | _ => (x + 1, y + 1)

def pointOf (p : Nat × Nat) : Point := ⟨(p.1 : Int) - 1, (p.2 : Int) - 1⟩

/-- The first set neighbour from direction `s` on, anticlockwise, among `n + 1` directions; the last
of them is taken without a look. -/
def firstSet (g : Grid) (p : Nat × Nat) (s : Nat) : Nat → Nat
  | 0 => s
  | n + 1 => if g.isSet (neighbour p s) then s else firstSet g p (s + 1) n

/-- The mark of a pixel that was left in direction `s` when the search began after `entered`. -/
def markLeft (g : Grid) (p : Nat × Nat) (entered s : Nat) : Grid :=
  if s != 0 && s ≤ entered then g.set p.1 p.2 .rightEdge
  else if g.get p.1 p.2 == .fresh then g.set p.1 p.2 .border
  else g

/-- Follows a border from pixel `p`, with the search beginning after direction `entered`, until it
leaves `last` for `start`. The points where the direction `before` changes are returned in order. -/
def follow (start last : Nat × Nat) :
    Nat → Grid → (Nat × Nat) → Nat → Nat → List Point × Grid
  | 0, g, _, _, _ => ([], g)
  | fuel + 1, g, p, entered, before =>
    let s := firstSet g p (entered + 1) (14 - entered) % 8
    let next := neighbour p s
    let g := markLeft g p entered s
    let kept := if s == before then [] else [pointOf p]
    if next == start && p == last then (kept, g)
    else
      let (rest, g) := follow start last fuel g next ((s + 4) % 8) s
      (kept ++ rest, g)

/-- The first set neighbour clockwise from the direction before `origin`, if there is one among the
seven. -/
def clockwise? (g : Grid) (p : Nat × Nat) (origin : Nat) : Option Nat :=
  ((List.range 7).map fun k => (origin + 7 - k) % 8).find? fun s => g.isSet (neighbour p s)

/-- The border that passes pixel `p`; a hole's border has the hole to the right of the pixel. -/
def trace (g : Grid) (p : Nat × Nat) (isHole : Bool) : List Point × Grid :=
  match clockwise? g p (if isHole then 0 else 4) with
  | none => ([pointOf p], g.set p.1 p.2 .rightEdge)
  | some s => follow p (neighbour p s) (8 * g.marks.size + 8) g p s ((s + 4) % 8)

/-- Scans the pixels of row `y` from `x` on, `n` of them; `before` is the mark to the left. -/
def scanRow (y : Nat) : Nat → Grid → Mark → Nat → List (List Point) × Grid
  | 0, g, _, _ => ([], g)
  | n + 1, g, before, x =>
    let here := g.get x y
    if here == before then scanRow y n g before (x + 1)
    else if before == .blank && here == .fresh then
      let (c, g) := trace g (x, y) false
      let (rest, g) := scanRow y n g (g.get x y) (x + 1)
      (c :: rest, g)
    else if here == .blank && (before == .fresh || before == .border) then
      let (c, g) := trace g (x - 1, y) true
      let (rest, g) := scanRow y n g (g.get x y) (x + 1)
      (c :: rest, g)
    else scanRow y n g here (x + 1)

def scanRows (width : Nat) : Nat → Grid → Nat → List (List Point)
  | 0, _, _ => []
  | n + 1, g, y =>
    let (found, g) := scanRow y width g .blank 1
    found ++ scanRows width n g (y + 1)

def contours? (f : Frame) : Option (List (List Point)) :=
  if f.channels == 1 then some (scanRows f.width f.height (Grid.ofFrame f) 1).reverse else none

end HatReel.Contour
