import HatReel.Document.Value
import HatReel.Settings.Basic

/-!
Settings as sections of named values, in their order. Here a field may be given any value, fitting
or not.
-/

namespace HatReel.Settings

open HatReel.Camera HatReel.Document HatReel.Log

/-- The kinds of fields, as far as saving them needs to know: whether a whole number is expected, a
number that need not be whole, or something else. -/
inductive Kind where
  | whole
  | real
  | other
  deriving DecidableEq, Repr

structure Field where
  name : String
  kind : Kind
  value : Value

structure Section where
  name : String
  typeName : String
  fields : List Field

abbrev Record := List Section

def optionValue {α : Type} (value : α → Value) : Option α → Value
  | some a => value a
  | none => .null

def CameraSettings.fields (s : CameraSettings) : List Field := [
  ⟨"source", .whole, s.source.value⟩,
  ⟨"width", .whole, optionValue .int s.width⟩,
  ⟨"height", .whole, optionValue .int s.height⟩,
  ⟨"gamma", .real, .float s.gamma⟩]

def ClassifierSettings.fields (s : ClassifierSettings) : List Field := [
  ⟨"url", .other, .text s.url⟩,
  ⟨"cache_dir", .other, .text s.cacheDir⟩,
  ⟨"timeout", .real, .float s.timeout⟩,
  ⟨"scale_factor", .real, .float s.scaleFactor⟩,
  ⟨"min_neighbors", .whole, .int s.minNeighbors⟩,
  ⟨"min_size", .other, .tuple [.int s.minSize.1, .int s.minSize.2]⟩]

def ContourSettings.fields (s : ContourSettings) : List Field := [
  ⟨"threshold", .real, .float s.threshold⟩,
  ⟨"max_value", .real, .float s.maxValue⟩,
  ⟨"epsilon_ratio", .real, .float s.epsilonRatio⟩]

def WarpSettings.fields (s : WarpSettings) : List Field := [
  ⟨"spread", .real, .float s.spread⟩,
  ⟨"seed", .whole, optionValue .int s.seed⟩]

def RecorderSettings.fields (s : RecorderSettings) : List Field := [
  ⟨"path", .other, .text s.path⟩,
  ⟨"fps", .real, .float s.fps⟩,
  ⟨"fourcc", .other, .text s.fourcc⟩]

def DisplaySettings.fields (s : DisplaySettings) : List Field := [
  ⟨"title", .other, .text s.title⟩,
  ⟨"enabled", .other, .bool s.enabled⟩,
  ⟨"gamma", .real, .float s.gamma⟩]

def RunSettings.fields (s : RunSettings) : List Field := [
  ⟨"max_frames", .whole, optionValue .int s.maxFrames⟩]

def LoggingSettings.fields (s : LoggingSettings) : List Field := [
  ⟨"level", .other, .text s.level.name⟩,
  ⟨"file", .other, optionValue .text s.file⟩]

def record (c : Config) : Record := [
  ⟨"camera", "CameraConfig", c.camera.fields⟩,
  ⟨"classifier", "ClassifierConfig", c.classifier.fields⟩,
  ⟨"contours", "ContourConfig", c.contours.fields⟩,
  ⟨"warp", "WarpConfig", c.warp.fields⟩,
  ⟨"recorder", "RecorderConfig", c.recorder.fields⟩,
  ⟨"display", "DisplayConfig", c.display.fields⟩,
  ⟨"run", "RunConfig", c.run.fields⟩,
  ⟨"logging", "LoggingConfig", c.logging.fields⟩]

end HatReel.Settings
