import HatReel.Camera.Source
import HatReel.Contour.Drawing
import HatReel.Log.Journal

/-!
The settings of a run, section by section, with their defaults.
-/

namespace HatReel.Settings

open HatReel.Camera HatReel.Log

structure CameraSettings where
  source : Source := .index 0
  width : Option Int := none
  height : Option Int := none
  gamma : Float := 2.2

structure ClassifierSettings where
  url : String :=
    "https://raw.github.com/opencv/opencv/master/data/haarcascades/" ++
      "haarcascade_frontalface_alt.xml"
  cacheDir : String := "~/.cache/cvdemo"
  timeout : Float := 60.0
  scaleFactor : Float := 1.1
  minNeighbors : Int := 3
  minSize : Int × Int := (0, 0)

structure ContourSettings where
  threshold : Float := 64.0
  maxValue : Float := 255.0
  epsilonRatio : Float := 0.02

structure WarpSettings where
  spread : Float := 0.25
  seed : Option Int := none

structure RecorderSettings where
  path : String := "output.avi"
  fps : Float := 30.0
  fourcc : String := "MJPG"

structure DisplaySettings where
  title : String := "Some Title"
  enabled : Bool := true
  gamma : Float := 2.2

structure RunSettings where
  maxFrames : Option Int := none

structure LoggingSettings where
  level : Level := .info
  file : Option String := none

end HatReel.Settings

namespace HatReel

open HatReel.Settings

structure Config where
  camera : CameraSettings := {}
  classifier : ClassifierSettings := {}
  contours : ContourSettings := {}
  warp : WarpSettings := {}
  recorder : RecorderSettings := {}
  display : DisplaySettings := {}
  run : RunSettings := {}
  logging : LoggingSettings := {}

def Settings.ContourSettings.style (s : ContourSettings) : Contour.Style :=
  ⟨s.threshold, s.maxValue, s.epsilonRatio⟩

end HatReel
