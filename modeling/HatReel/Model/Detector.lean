import HatReel.Model.Cache
import HatReel.Settings.Basic

/-!
Finding faces. A detector is a loaded model together with the parameters of its search.
-/

namespace HatReel.Model

open HatReel.Draw HatReel.Files HatReel.Image HatReel.Log HatReel.Rig HatReel.Settings

def load (path : Path) : Act World Unit := do
  if !(← askFiles fun s => s.isFile? path) then .fail (.modelMissing path.text)
  .emit (.cascadeLoad path.text)
  let cascade := (← Act.get).scripts.cascade
  if let some reason := cascade.raises then .fail (.modelUnreadable path.text reason)
  if !cascade.loads || cascade.empty then .fail (.modelEmpty path.text)
  log .info loggerName s!"Loaded classifier {path.text}"

def shape (f : Frame) : List Nat :=
  if f.channels == 1 then [f.height, f.width] else [f.height, f.width, f.channels]

/-- What the next search finds, if it does not fail. -/
def nextFaces : Act World (Option (List Rect)) := fun w =>
  let (found, rest) := next (some []) w.scripts.faces
  ⟨.ok found, { w with scripts := { w.scripts with faces := rest } }, []⟩

def detect (s : ClassifierSettings) (gray : Frame) : Act World (List Rect) := do
  .emit (@Event.detect gray (shape gray) s.scaleFactor s.minNeighbors s.minSize)
  Act.require (← nextFaces) .picture

def annotate (s : ClassifierSettings) (frame gray : Frame) : Act World (List Rect × Frame) := do
  let faces ← detect s gray
  match drawFaces frame faces with
  | (frame, none) => return (faces, frame)
  | (_, some fault) => .fail (.face fault)

end HatReel.Model
