import HatReel.Rig.World

/-!
A grabber reads frames from a source. It holds a capture from a successful start to the next stop.
-/

namespace HatReel.Camera

open HatReel.Image HatReel.Log HatReel.Rig

structure Capture where
  reads : List (Option Frame)

structure Grabber where
  source : Source
  width : Option Int
  height : Option Int
  gamma : Float
  capture : Option Capture := none

namespace Grabber

def loggerName : String := "cvdemo.grabber"

def ofSource (source : Source) (width height : Option Int) (gamma : Float) : Except Fault Grabber :=
  (source.normalize.mapError Fault.badSource).map fun source => { source, width, height, gamma }

def isStarted (g : Grabber) : Bool := g.capture.isSome

def openCapture (source : Source) : Act World CaptureScript := do
  .emit (.captureOpen source)
  fun w =>
    let (script, rest) := next ⟨false, []⟩ w.scripts.captures
    ⟨.ok script, { w with scripts := { w.scripts with captures := rest } }, []⟩

def setProperty (property : CaptureProperty) : Option Int → Act World Unit
  | some n => if n = 0 then pure () else .emit (.captureSet property n)
  | none => pure ()

def hold (capture : Option Capture) : Act (Grabber × World) Unit :=
  .modify fun (g, w) => ({ g with capture := capture }, w)

def start : Act (Grabber × World) Unit := do
  let (g, _) ← Act.get
  let script ← Act.below (openCapture g.source)
  if !script.opens then
    .emit .captureRelease
    .fail (.noSource g.source)
  .below (setProperty .width g.width)
  .below (setProperty .height g.height)
  hold (some ⟨script.reads⟩)
  .below (log .info loggerName s!"[Grabber] Opened source {g.source.quoted}")

def grab : Act (Grabber × World) (Option Frame) := do
  let (g, _) ← Act.get
  match g.capture with
  | none => .fail .grabberIdle
  | some capture =>
    let (frame, rest) := next none capture.reads
    hold (some ⟨rest⟩)
    .emit (.captureRead frame.isSome)
    return frame

def stop : Act (Grabber × World) Unit := do
  let (g, _) ← Act.get
  if g.isStarted then
    .emit .captureRelease
    hold none
    .below (log .info loggerName "[Grabber] Released")

end Grabber

end HatReel.Camera
