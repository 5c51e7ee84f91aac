import HatReel.Proofs.Camera.Devices
import HatReel.Reel.Demo

/-! Steps of a reel under way, and what becomes of one frame.

A step of a device leaves the other devices of the stage alone. A frame that is processed gives a
shot: its faces and then the contours of its brightness as it came are drawn on it, and the whole is
warped. -/

namespace HatReel.Reel

open HatReel.Camera HatReel.Contour HatReel.Draw HatReel.Image HatReel.Log HatReel.Model HatReel.Rig
  HatReel.Settings

namespace Stage

variable {α : Type} {s : Stage}

theorem onWorld_run {x : Act World α} {answer : Except Fault α} {w : World} {t : List Event}
    (step : x s.world = ⟨answer, w, t⟩) : onWorld x s = ⟨answer, { s with world := w }, t⟩ :=
  Act.on_run step

theorem onGrabber_run {x : Act (Grabber × World) α} {answer : Except Fault α} {g : Grabber}
    {w : World} {t : List Event} (step : x (s.grabber, s.world) = ⟨answer, (g, w), t⟩) :
    onGrabber x s = ⟨answer, { s with grabber := g, world := w }, t⟩ := by
  unfold onGrabber Act.on
  simp only [step]

theorem onRecorder_run {x : Act (Recorder × World) α} {r r' : Recorder} {w : World}
    {answer : Except Fault α} {t : List Event} (default : α) (held : s.recorder = some r)
    (step : x (r, s.world) = ⟨answer, (r', w), t⟩) :
    onRecorder default x s = ⟨answer, { s with recorder := some r', world := w }, t⟩ := by
  unfold onRecorder
  simp only [held, step]

theorem onPreview_run {x : Act (Preview × World) α} {p p' : Preview} {w : World}
    {answer : Except Fault α} {t : List Event} (default : α) (held : s.preview = some p)
    (step : x (p, s.world) = ⟨answer, (p', w), t⟩) :
    onPreview default x s = ⟨answer, { s with preview := some p', world := w }, t⟩ := by
  unfold onPreview
  simp only [held, step]

theorem onRecorder_none {x : Act (Recorder × World) α} (default : α) (idle : s.recorder = none) :
    onRecorder default x s = ⟨.ok default, s, []⟩ := by
  unfold onRecorder
  simp only [idle]

theorem onPreview_none {x : Act (Preview × World) α} (default : α) (hidden : s.preview = none) :
    onPreview default x s = ⟨.ok default, s, []⟩ := by
  unfold onPreview
  simp only [hidden]

end Stage

/-- What comes of a frame: its brightness as it came, the picture to be written, and the numbers of
faces and polygons on it. -/
structure Shot where
  gray : Frame
  picture : Frame
  faces : Nat
  contours : Nat

def shoot? (config : Config) (rotation : Matrix Float) (frame : Frame) (faces : List Rect) :
    Option Shot :=
  match frame.gray?, drawFaces frame faces with
  | some gray, (marked, none) =>
    (drawContours? marked gray config.contours.style).bind fun (polygons, annotated) =>
      (annotated.warp? rotation).map fun picture => ⟨gray, picture, faces.length, polygons.length⟩
  | _, _ => none

def nextFound (w : World) : Option (List Rect) := (next (some []) w.scripts.faces).1

def facesTaken (w : World) : World :=
  { w with scripts := { w.scripts with faces := (next (some []) w.scripts.faces).2 } }

def search (s : ClassifierSettings) (gray : Frame) : Event :=
  @Event.detect gray (shape gray) s.scaleFactor s.minNeighbors s.minSize

theorem detect_run (s : ClassifierSettings) (gray : Frame) (w : World) :
    detect s gray w =
      ⟨(nextFound w).elim (.error .picture) .ok, facesTaken w, [search s gray]⟩ := by
  have taken : nextFaces w = ⟨.ok (nextFound w), facesTaken w, []⟩ := rfl
  unfold detect
  refine Act.bind_run (Act.emit_run _ _) (Act.bind_run taken ?_ rfl) rfl
  cases nextFound w <;> rfl

theorem annotate_ok {s : ClassifierSettings} {frame gray marked : Frame} {faces : List Rect}
    {w w' : World} {t : List Event} (ran : annotate s frame gray w = ⟨.ok (faces, marked), w', t⟩) :
    nextFound w = some faces ∧ drawFaces frame faces = (marked, none) ∧
      w' = facesTaken w ∧ t = [search s gray] := by
  obtain ⟨found, _, _, _, found_ran, rest, rfl⟩ := Act.bind_ok ran
  rw [detect_run] at found_ran
  cases come : nextFound w with
  | none =>
      rw [come] at found_ran
      cases found_ran
  | some faces =>
      rw [come] at found_ran
      cases found_ran
      rcases drawn : drawFaces frame found with ⟨drawnFrame, _ | fault⟩ <;> rw [drawn] at rest <;>
        cases rest
      exact ⟨rfl, drawn, rfl, rfl⟩

theorem process_ok {config : Config} {rotation : Matrix Float} {frame : Frame} {w w' : World}
    {done : Processed} {t : List Event}
    (ran : process config rotation frame w = ⟨.ok done, w', t⟩) :
    ∃ gray faces, nextFound w = some faces ∧
      shoot? config rotation frame faces =
        some ⟨gray, done.warped, done.faces, done.contours⟩ ∧
      w' = facesTaken w ∧ t = [search config.classifier gray] := by
  obtain ⟨gray, _, _, _, gray_ran, rest, rfl⟩ := Act.bind_ok ran
  obtain ⟨gray_is, rfl, rfl⟩ := Act.require_ok gray_ran
  obtain ⟨⟨faces, marked⟩, _, found, _, faces_ran, rest₁, rfl⟩ := Act.bind_ok rest
  obtain ⟨come, drawn, rfl, rfl⟩ := annotate_ok faces_ran
  obtain ⟨⟨polygons, annotated⟩, _, _, _, contours_ran, rest₂, rfl⟩ := Act.bind_ok rest₁
  obtain ⟨contours_are, rfl, rfl⟩ := Act.require_ok contours_ran
  obtain ⟨warped, _, _, _, warp_ran, rest₃, rfl⟩ := Act.bind_ok rest₂
  obtain ⟨warp_is, rfl, rfl⟩ := Act.require_ok warp_ran
  obtain ⟨rfl, rfl, rfl⟩ := Act.pure_ok rest₃
  refine ⟨gray, faces, come, ?_, rfl, rfl⟩
  simp only [shoot?, gray_is, drawn, contours_are, Option.bind_some, warp_is, Option.map_some]

def frameSize (frame : Frame) : Float := Binary.ofInt (frame.width + frame.height : Nat)

theorem drawRotation_same (config : Config) (size : Float) (w : World) :
    (drawRotation config size w).state = w ∧ (drawRotation config size w).trace = [] := by
  unfold drawRotation
  cases config.warp.seed with
  | none => exact ⟨rfl, rfl⟩
  | some n =>
      by_cases negative : n < 0
      · simp only [negative, if_true]
        exact ⟨rfl, rfl⟩
      · simp only [negative, if_false]
        exact ⟨rfl, rfl⟩

/-- The rotation of a run depends on the world by its entropy only. -/
theorem drawRotation_entropy (config : Config) (size : Float) {w w' : World}
    (same : w'.scripts.entropy = w.scripts.entropy) :
    (drawRotation config size w').answer = (drawRotation config size w).answer := by
  unfold drawRotation
  cases config.warp.seed with
  | none =>
      change Except.ok _ = Except.ok _
      rw [same]
  | some n =>
      by_cases negative : n < 0
      · simp only [negative, if_true]
        rfl
      · simp only [negative, if_false]
        rfl

end HatReel.Reel
