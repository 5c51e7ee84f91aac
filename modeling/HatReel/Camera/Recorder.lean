import HatReel.Decimal.Printer
import HatReel.Rig.World

/-!
A recorder writes frames of one size to a video. It holds a writer from a successful start to the
next stop.
-/

namespace HatReel.Camera

open HatReel.Decimal HatReel.Files HatReel.Image HatReel.Log HatReel.Rig

structure Writer where
  failAt : Option Int
  count : Nat

structure Recorder where
  path : Path
  width : Int
  height : Int
  fps : Number
  fourcc : String
  written : Nat := 0
  writer : Option Writer := none

namespace Recorder

def loggerName : String := "cvdemo.recorder"

def leadOf (c : Char) : Nat := ((Text.utf8 c.toString).headD 0).toNat

/-- Four characters as one number, a byte for each, the first the lowest. The number is signed and
has 32 bits. -/
def codeNumber? (code : String) : Option Int :=
  match code.toList with
  | [a, b, c, d] =>
    let bits : Nat := leadOf a + leadOf b * 2 ^ 8 + leadOf c * 2 ^ 16 + leadOf d * 2 ^ 24
    some (Int.bmod bits (2 ^ 32))
  | _ => none

def openWriter : Act World WriterScript := fun w =>
  let (script, rest) := next ⟨true, none⟩ w.scripts.writers
  ⟨.ok script, { w with scripts := { w.scripts with writers := rest } }, []⟩

def hold (writer : Option Writer) : Act (Recorder × World) Unit :=
  .modify fun (r, w) => ({ r with writer := writer }, w)

def start : Act (Recorder × World) Unit := do
  let (r, _) ← Act.get
  .below (ensureDirectory r.path.parent)
  let code ← Act.require (codeNumber? r.fourcc) .codeLength
  .emit (.writerOpen r.path.text code r.fps.toFloat r.width r.height)
  let script ← Act.below openWriter
  if !script.opens then
    .emit .writerRelease
    .fail (.noWriter r.path.text r.fourcc)
  hold (some ⟨script.failAt, 0⟩)
  .below (log .info loggerName
    s!"[Recorder] Started: {r.path.text} {r.width}x{r.height} @ {r.fps.text} FPS")

def record (frame : Frame) : Act (Recorder × World) Unit := do
  let (r, _) ← Act.get
  match r.writer with
  | none => .fail .recorderIdle
  | some writer =>
    if (frame.width : Int) != r.width || (frame.height : Int) != r.height then
      .fail (.frameSize frame.width frame.height r.width r.height)
    if writer.failAt == some (writer.count : Int) then
      .emit .writerFail
      .fail .codec
    .emit (.writerWrite frame)
    .modify fun (r, w) =>
      ({ r with
          written := r.written + 1
          writer := some { writer with count := writer.count + 1 } }, w)

def stop : Act (Recorder × World) Unit := do
  let (r, _) ← Act.get
  if r.writer.isSome then
    .emit .writerRelease
    hold none
    .below (log .info loggerName s!"[Recorder] Done, wrote {r.written} frames")

end Recorder

end HatReel.Camera
