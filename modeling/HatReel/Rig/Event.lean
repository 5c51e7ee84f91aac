import HatReel.Camera.Source
import HatReel.Decimal.Printer
import HatReel.Image.Frame

/-!
What reaches the devices around a reel.
-/

namespace HatReel.Rig

open HatReel.Camera HatReel.Decimal HatReel.Image

inductive CaptureProperty where
  | width
  | height
  deriving DecidableEq, Repr

inductive Event where
  | captureOpen (source : Source)
  | captureSet (property : CaptureProperty) (value : Int)
  | captureRead (ok : Bool)
  | captureRelease
  | writerOpen (path : String) (code : Int) (fps : Float) (width height : Int)
  | writerWrite (frame : Frame)
  | writerFail
  | writerRelease
  | cascadeLoad (path : String)
  /-- A search in a picture, of which a report shows the shape only. -/
  | detect {gray : Frame} (shape : List Nat) (scaleFactor : Float) (minNeighbors : Int)
      (minSize : Int × Int)
  | showWindow (title : String) (frame : Frame)
  | waitKey (delay : Nat) (key : Int)
  | windowVisible (title : String)
  | destroyWindow (title : String)
  | httpGet (url : String) (timeout : Number)
  | httpIterate (size : Nat)
  | httpClose
  | log (level : String) (logger : String) (message : String)

end HatReel.Rig
