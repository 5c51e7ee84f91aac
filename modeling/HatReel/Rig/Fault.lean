import HatReel.Camera.Source
import HatReel.Draw.Face
import HatReel.Files.Store
import HatReel.Web.Url

/-!
Why a reel ends before its time, or a step of it fails.
-/

namespace HatReel.Rig

open HatReel.Camera HatReel.Draw HatReel.Files HatReel.Text HatReel.Web

inductive Fault where
  /-- The source of frames does not open. -/
  | noSource (source : Source)
  | grabberIdle
  | noFrames
  /-- The output video does not open. -/
  | noWriter (path code : String)
  | recorderIdle
  | frameSize (width height : Nat) (wantedWidth wantedHeight : Int)
  /-- The writer broke down. -/
  | codec
  | codeLength
  | modelMissing (path : String)
  | modelUnreadable (path reason : String)
  | modelEmpty (path : String)
  | download (url reason : String)
  /-- The network broke down in an unforeseen way. -/
  | network (reason : String)
  | noHome
  | badUrl (fault : UrlFault)
  | badSource (fault : Decimal.IntegerFault)
  | file (fault : FileFault)
  | face (fault : FaceFault)
  /-- A picture does not fit the operation on it, or the search in it fails. -/
  | picture
  | negativeSeed
  | zeroGamma
  | sizeTooLarge
  | unknownLevel
  | levelText (text : String)
  | levelKind
  deriving DecidableEq, Repr

def Fault.isForeseen : Fault → Bool
  | .noSource _ | .grabberIdle | .noFrames | .noWriter .. | .recorderIdle | .frameSize ..
  | .modelMissing _ | .modelUnreadable .. | .modelEmpty _ | .download .. => true
  | _ => false

def Fault.message : Fault → String
  | .noSource s => s!"Could not open frame source {s.quoted}"
  | .grabberIdle => "Frame grabber is not started"
  | .noFrames => "Frame source produced no frames"
  | .noWriter path code => s!"Could not open video writer for {path} ({code})"
  | .recorderIdle => "Frame recorder is not started"
  | .frameSize w h ww wh => s!"Frame size {w}x{h} does not match recorder size {ww}x{wh}"
  | .codec => "codec error"
  | .codeLength => ""
  | .modelMissing path => s!"Classifier file not found: {path}"
  | .modelUnreadable path reason => s!"Could not parse cascade {path}: {reason}"
  | .modelEmpty path => s!"Could not load cascade from {path}"
  | .download url reason => s!"Could not download {url}: {reason}"
  | .network reason => reason
  | .noHome => "Could not determine home directory."
  | .badUrl fault => fault.message
  | .badSource fault => fault.message
  | .file fault => fault.message
  | .face fault => fault.message
  | .picture => ""
  | .negativeSeed => "expected non-negative integer"
  | .zeroGamma => "float division by zero"
  | .sizeTooLarge => "int too large to convert to float"
  | .unknownLevel => ""
  | .levelText text => s!"Unknown level: {quoted text}"
  | .levelKind => ""

end HatReel.Rig
