import HatReel.Draw.Face
import HatReel.Files.Path
import HatReel.Image.Frame

/-!
What the devices around a reel will do: each list holds the outcomes of calls to come, the next one
first. Once a list is used up its device goes on in a fixed way.
-/

namespace HatReel.Rig

open HatReel.Draw HatReel.Files HatReel.Image

structure CaptureScript where
  opens : Bool
  reads : List (Option Frame)

structure WriterScript where
  opens : Bool
  failAt : Option Int

structure CascadeScript where
  loads : Bool
  empty : Bool
  raises : Option String

inductive Ending where
  | complete
  | timeout (reason : String)
  | crash (reason : String)
  deriving DecidableEq, Repr

inductive Response where
  | refused (reason : String)
  | answered (status : Int) (chunks : List String) (ending : Ending)
  deriving DecidableEq, Repr

structure Scripts where
  captures : List CaptureScript := []
  writers : List WriterScript := []
  cascade : CascadeScript := ⟨true, false, none⟩
  /-- What the searches in pictures find; some fail. -/
  faces : List (Option (List Rect)) := []
  keys : List Int := []
  visible : List Float := []
  destroyError : Option String := none
  responses : List Response := []
  clock : List Float := [0.0, 0.0]
  backends : List String := ["FFMPEG"]
  buildInfo : String := "<build>"
  /-- The seed of a generator that is given none. -/
  entropy : Nat := 0
  homes : Homes := .standard

end HatReel.Rig
