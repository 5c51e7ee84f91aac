import HatReel.Image.Gamma
import HatReel.Rig.World

/-!
A preview shows frames in a window, corrected by a gamma. It counts as visible until a key for
quitting is pressed, the window is closed or the preview is disposed of. A preview that is not
enabled shows nothing and is always visible.
-/

namespace HatReel.Camera

open HatReel.Image HatReel.Log HatReel.Rig

structure Preview where
  title : String
  enabled : Bool
  table : Option (Vector UInt8 256)
  shown : Bool := false
  closed : Bool := false

namespace Preview

def loggerName : String := "cvdemo.display"

def make (title : String) (gamma : Float) (enabled : Bool) : Except Fault Preview :=
  if isNeutral gamma then .ok { title, enabled, table := none }
  else
    match gammaTable? gamma with
    | some table => .ok { title, enabled, table := some table }
    | none => .error .zeroGamma

def correct (p : Preview) (frame : Frame) : Frame :=
  match p.table with
  | some table => frame.lookUp table
  | none => frame

def waitKey : Act World Int := do
  let w ← Act.get
  let (key, rest) := next (-1) w.scripts.keys
  .modify fun w => { w with scripts := { w.scripts with keys := rest } }
  .emit (.waitKey 1 key)
  return key

def isQuitKey (key : Int) : Bool := key % 256 == 27 || key % 256 == 113

def change (f : Preview → Preview) : Act (Preview × World) Unit := .modify fun (p, w) => (f p, w)

def close : Act (Preview × World) Unit := change fun p => { p with closed := true }

def present (frame : Frame) : Act (Preview × World) Unit := do
  let (p, _) ← Act.get
  if p.enabled then
    .emit (.showWindow p.title (p.correct frame))
    change fun p => { p with shown := true }
    let key ← Act.below waitKey
    if isQuitKey key then
      .below (log .info loggerName "[Display] Quit key pressed")
      close

def askWindow (title : String) : Act World Float := do
  .emit (.windowVisible title)
  fun w =>
    let (answer, rest) := next 1.0 w.scripts.visible
    ⟨.ok answer, { w with scripts := { w.scripts with visible := rest } }, []⟩

def isVisible : Act (Preview × World) Bool := do
  let (p, _) ← Act.get
  if !p.enabled then return true
  else if p.closed then return false
  else if !p.shown then return true
  else if (← Act.below (askWindow p.title)) < 1.0 then
    .below (log .info loggerName "[Display] Window closed")
    close
    return false
  else return true

/-- Destroys the window if it was shown. That it cannot be destroyed is no fault. -/
def dispose : Act (Preview × World) Unit := do
  let (p, w) ← Act.get
  if p.enabled && p.shown then
    .emit (.destroyWindow p.title)
    match w.scripts.destroyError with
    | some reason => .below (log .debug loggerName s!"[Display] destroyWindow: {reason}")
    | none => discard (Act.below waitKey)
  change fun p => { p with shown := false, closed := true }

end Preview

end HatReel.Camera
