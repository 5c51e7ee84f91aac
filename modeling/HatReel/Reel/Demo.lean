import HatReel.Camera.Grabber
import HatReel.Camera.Preview
import HatReel.Camera.Recorder
import HatReel.Contour.Drawing
import HatReel.Image.MatrixText
import HatReel.Model.Detector

/-!
A reel: frames are read from a source, marked and warped one by one, shown and recorded, until the
preview is closed, the source is used up or enough frames are done. However a run ends, the preview
is disposed of and the recorder and the grabber are stopped, in this order.
-/

namespace HatReel.Reel

open HatReel.Camera HatReel.Contour HatReel.Files HatReel.Image HatReel.Log HatReel.Model
  HatReel.Rig HatReel.Settings

def loggerName : String := "cvdemo.demo"

structure Stats where
  frames : Nat := 0
  faces : Nat := 0
  contours : Nat := 0
  elapsed : Float := 0.0
  output : Path

/-- Frames per second; zero if no time has passed, and nothing for a count beyond all floats. -/
def rate? (frames : Int) (elapsed : Float) : Option Float :=
  if 0.0 < elapsed then (Binary.ofInt? frames).map fun n => n / elapsed else some 0.0

def Stats.fps (s : Stats) : Float := (rate? s.frames s.elapsed).getD 0.0

/-- A reel at rest. A preview of its own is kept from run to run; so is the last rotation. -/
structure Demo where
  config : Config
  model : Option String
  grabber : Grabber
  preview : Option Preview := none
  rotation : Option (Matrix Float) := none

def Demo.make (config : Config) (model : Option String) (preview : Option Preview) :
    Except Fault Demo := do
  let c := config.camera
  let grabber ← Grabber.ofSource c.source c.width c.height c.gamma
  return { config, model, grabber, preview }

/-- A reel under way: what it holds, and the world. -/
structure Stage where
  grabber : Grabber
  recorder : Option Recorder
  preview : Option Preview
  rotation : Option (Matrix Float)
  world : World

namespace Stage

variable {α : Type}

def onWorld (x : Act World α) : Act Stage α :=
  .on Stage.world (fun w s => { s with world := w }) x

def onGrabber (x : Act (Grabber × World) α) : Act Stage α :=
  .on (fun s => (s.grabber, s.world)) (fun (g, w) s => { s with grabber := g, world := w }) x

def onRecorder (default : α) (x : Act (Recorder × World) α) : Act Stage α := fun s =>
  match s.recorder with
  | none => ⟨.ok default, s, []⟩
  | some r =>
    match x (r, s.world) with
    | ⟨a, (r, w), trace⟩ => ⟨a, { s with recorder := some r, world := w }, trace⟩

def onPreview (default : α) (x : Act (Preview × World) α) : Act Stage α := fun s =>
  match s.preview with
  | none => ⟨.ok default, s, []⟩
  | some p =>
    match x (p, s.world) with
    | ⟨a, (p, w), trace⟩ => ⟨a, { s with preview := some p, world := w }, trace⟩

end Stage

/-- What becomes of a frame: the marked frame, its warped copy, and the numbers of faces and
contours. -/
structure Processed where
  annotated : Frame
  warped : Frame
  faces : Nat
  contours : Nat

/-- Marks the faces and the contours of a frame on it, and warps it. Both are sought in the
brightness of the frame as it came. -/
def process (config : Config) (rotation : Matrix Float) (frame : Frame) : Act World Processed := do
  let gray ← Act.require frame.gray? .picture
  let (faces, frame) ← annotate config.classifier frame gray
  let (polygons, frame) ← Act.require (drawContours? frame gray config.contours.style) .picture
  let warped ← Act.require (frame.warp? rotation) .picture
  return ⟨frame, warped, faces.length, polygons.length⟩

def drawRotation (config : Config) (size : Float) : Act World (Matrix Float) := do
  let seed ←
    match config.warp.seed with
    | some n => if n < 0 then .fail .negativeSeed else pure n.toNat
    | none => pure (← Act.get).scripts.entropy
  let axis := (randomAxis config.warp.spread (.ofSeed seed)).1
  return axis.homography size

def makePreview (demo : Demo) : Except Fault Preview :=
  match demo.preview with
  | some p => .ok p
  | none =>
    let d := demo.config.display
    Preview.make d.title (d.gamma / demo.grabber.gamma) d.enabled

def handle (config : Config) (rotation : Matrix Float) (frame : Frame) (stats : Stats) :
    Act Stage Stats := do
  let done ← Stage.onWorld (process config rotation frame)
  Stage.onPreview () (Preview.present done.warped)
  Stage.onRecorder () (Recorder.record done.warped)
  return { stats with
    frames := stats.frames + 1
    faces := stats.faces + done.faces
    contours := stats.contours + done.contours }

def isEnough (config : Config) (stats : Stats) : Option Int :=
  config.run.maxFrames.filter fun n => n ≤ (stats.frames : Int)

/-- Handles frames while the preview is visible, at most `fuel` of them. -/
def loop (config : Config) (rotation : Matrix Float) : Nat → Stats → Act Stage Stats
  | 0, stats => pure stats
  | fuel + 1, stats => do
    if ← Stage.onPreview true Preview.isVisible then
      match ← Stage.onGrabber Grabber.grab with
      | none => return stats
      | some frame =>
        let stats ← handle config rotation frame stats
        match isEnough config stats with
        | some n =>
          Stage.onWorld (log .info loggerName s!"Reached max_frames={n}")
          return stats
        | none => loop config rotation fuel stats
    else return stats

def readsLeft (g : Grabber) : Nat :=
  match g.capture with
  | some c => c.reads.length
  | none => 0

/-- What is done between the start of the grabber and the release of all devices. -/
def body (demo : Demo) : Act Stage Stats := do
  let config := demo.config
  match ← Stage.onGrabber Grabber.grab with
  | none => .fail .noFrames
  | some frame =>
    let world {α : Type} (x : Act World α) : Act Stage α := Stage.onWorld x
    world (log .info loggerName s!"Frame size: {frame.width}x{frame.height}")
    let r := config.recorder
    let recorder : Recorder :=
      { path := Path.ofText r.path, width := frame.width, height := frame.height,
        fps := .real r.fps, fourcc := r.fourcc }
    .modify fun s => { s with recorder := some recorder }
    Stage.onRecorder () Recorder.start
    let preview ← Act.ofExcept id (makePreview demo)
    .modify fun s => { s with preview := some preview }
    let rotation ← world (drawRotation config (Binary.ofInt (frame.width + frame.height : Nat)))
    .modify fun s => { s with rotation := some rotation }
    world (log .info loggerName s!"Random rotation:\n{rotation.text}")
    let start ← world readClock
    let fuel := readsLeft (← Act.get).grabber + 1
    let stats ← loop config rotation fuel { output := recorder.path }
    let now ← world readClock
    return { stats with elapsed := now - start }

def release : Act Stage Unit := do
  Stage.onPreview () Preview.dispose
  Stage.onRecorder () Recorder.stop
  Stage.onGrabber Grabber.stop

def Stats.summary (s : Stats) : String :=
  s!"Processed {s.frames} frames ({Decimal.fixedText 1 s.fps} FPS), {s.faces} faces, " ++
    s!"{s.contours} contours -> {s.output.text}"

def perform (demo : Demo) : Act Stage Stats := do
  Stage.onGrabber Grabber.start
  let stats ← Act.ensuring (body demo) release
  Stage.onWorld (log .info loggerName stats.summary)
  return stats

def loadModel (demo : Demo) : Act World Unit := do
  let c := demo.config.classifier
  let path ← resolve demo.model c.cacheDir c.url (.real c.timeout)
  load path

/-- One run of a reel. A preview of the reel's own stays as the run left it, and so does the
rotation. -/
def run : Act (Demo × World) Stats := do
  let (demo, _) ← Act.get
  .below (loadModel demo)
  .on (fun (d, w) => ⟨d.grabber, none, none, d.rotation, w⟩)
    (fun s (d, _) =>
      ({ d with
          grabber := s.grabber
          preview := if d.preview.isSome && s.preview.isSome then s.preview else d.preview
          rotation := s.rotation },
        s.world))
    (perform demo)

end HatReel.Reel
