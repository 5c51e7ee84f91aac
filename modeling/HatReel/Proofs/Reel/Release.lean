import HatReel.Proofs.Reel.Stage

/-! Letting go of all devices.

A release cannot fail. It lets go of the preview, the recorder and the grabber in this order: each
that is in use makes one event of its end, and each that is not makes none. -/

namespace HatReel.Reel

open HatReel.Camera HatReel.Rig

/-- The events when a device is let go: if it is in use, its end and then some that end nothing,
within the given devices. -/
inductive LetsGo (ending : Event) (devices : List Device) : Bool → List Event → Prop where
  | used (u : List Event) (within : Within devices u) (quiet : Quiet u) :
      LetsGo ending devices true (ending :: u)
  | unused : LetsGo ending devices false []

theorem stop_grabber_run (g : Grabber) (w : World) :
    ∃ w' t, Grabber.stop (g, w) = ⟨.ok (), ({ g with capture := none }, w'), t⟩ ∧
      LetsGo .captureRelease [.journal] g.isStarted t := by
  cases started : g.isStarted with
  | true =>
      obtain ⟨w', t, step, logs⟩ := Grabber.stop_started (w := w) started
      exact ⟨w', _, step, .used t logs.within logs.quiet⟩
  | false =>
      have idle : g.capture = none := by
        simpa [Grabber.isStarted] using started
      refine ⟨w, [], ?_, .unused⟩
      rw [Grabber.stop_idle started]
      rcases g with ⟨source, width, height, gamma, capture⟩
      cases idle
      rfl

theorem stop_recorder_run (r : Recorder) (w : World) :
    ∃ w' t, Recorder.stop (r, w) = ⟨.ok (), ({ r with writer := none }, w'), t⟩ ∧
      LetsGo .writerRelease [.journal] r.writer.isSome t := by
  cases writing : r.writer.isSome with
  | true =>
      obtain ⟨w', t, step, logs⟩ := Recorder.stop_writing (w := w) writing
      exact ⟨w', _, step, .used t logs.within logs.quiet⟩
  | false =>
      have idle : r.writer = none := Option.not_isSome_iff_eq_none.mp (by simp [writing])
      refine ⟨w, [], ?_, .unused⟩
      rw [Recorder.stop_idle writing]
      rcases r with ⟨path, width, height, fps, fourcc, written, writer⟩
      cases idle
      rfl

theorem dispose_run (p : Preview) (w : World) :
    ∃ w' t, Preview.dispose (p, w) = ⟨.ok (), (p.disposed, w'), t⟩ ∧
      LetsGo (.destroyWindow p.title) [.window, .journal] p.isShowing t := by
  cases showing : p.isShowing with
  | true =>
      obtain ⟨w', t, step, within, quiet⟩ := Preview.dispose_showing (w := w) showing
      exact ⟨w', _, step, .used t within quiet⟩
  | false => exact ⟨w, [], Preview.dispose_hidden showing, .unused⟩

namespace Stage

def isShowing (s : Stage) : Bool := s.preview.any Preview.isShowing

def isWriting (s : Stage) : Bool := s.recorder.any fun r => r.writer.isSome

def title (s : Stage) : String := (s.preview.map Preview.title).getD ""

def released (s : Stage) (w : World) : Stage where
  grabber := { s.grabber with capture := none }
  recorder := s.recorder.map fun r => { r with writer := none }
  preview := s.preview.map Preview.disposed
  rotation := s.rotation
  world := w

theorem dispose_run (s : Stage) :
    ∃ w t, onPreview () Preview.dispose s =
        ⟨.ok (), { s with preview := s.preview.map Preview.disposed, world := w }, t⟩ ∧
      LetsGo (.destroyWindow s.title) [.window, .journal] s.isShowing t := by
  rcases s with ⟨grabber, recorder, preview, rotation, w⟩
  cases preview with
  | none => exact ⟨w, [], rfl, .unused⟩
  | some p =>
      obtain ⟨w', t, step, lets⟩ := Reel.dispose_run p w
      exact ⟨w', t, onPreview_run () rfl step, lets⟩

theorem stop_recorder_run (s : Stage) :
    ∃ w t, onRecorder () Recorder.stop s =
        ⟨.ok (), { s with
          recorder := s.recorder.map fun r => { r with writer := none }, world := w }, t⟩ ∧
      LetsGo .writerRelease [.journal] s.isWriting t := by
  rcases s with ⟨grabber, recorder, preview, rotation, w⟩
  cases recorder with
  | none => exact ⟨w, [], rfl, .unused⟩
  | some r =>
      obtain ⟨w', t, step, lets⟩ := Reel.stop_recorder_run r w
      exact ⟨w', t, onRecorder_run () rfl step, lets⟩

end Stage

structure Releases (s : Stage) (t₁ t₂ t₃ : List Event) : Prop where
  window : LetsGo (.destroyWindow s.title) [.window, .journal] s.isShowing t₁
  writer : LetsGo .writerRelease [.journal] s.isWriting t₂
  camera : LetsGo .captureRelease [.journal] s.grabber.isStarted t₃

theorem release_run (s : Stage) :
    ∃ w t₁ t₂ t₃, release s = ⟨.ok (), s.released w, t₁ ++ (t₂ ++ t₃)⟩ ∧
      Releases s t₁ t₂ t₃ := by
  obtain ⟨w₁, t₁, disposes, window⟩ := Stage.dispose_run s
  obtain ⟨w₂, t₂, stops, writer⟩ := Stage.stop_recorder_run
    { s with preview := s.preview.map Preview.disposed, world := w₁ }
  obtain ⟨w₃, t₃, ends, camera⟩ := stop_grabber_run s.grabber w₂
  refine ⟨w₃, t₁, t₂, t₃, ?_, window, writer, camera⟩
  unfold release
  refine Act.bind_run disposes ?_ rfl
  refine Act.bind_run stops ?_ rfl
  exact Stage.onGrabber_run ends

theorem LetsGo.idle {ending : Event} {devices : List Device} {opened : Bool} {t : List Event}
    (lets : LetsGo ending devices opened t) (own : Idle [ending])
    (rest : ∀ u, Within devices u → Idle u) : Idle t := by
  cases lets with
  | unused => exact idle_nil
  | used u within quiet => exact idle_append own (rest u within)

/-- A release writes nothing, seeks no faces and reads nothing. -/
theorem Releases.idle {s : Stage} {t₁ t₂ t₃ : List Event} (releases : Releases s t₁ t₂ t₃) :
    Idle (t₁ ++ (t₂ ++ t₃)) := by
  have logged : ∀ u, Within [.journal] u → Idle u := fun u within =>
    within.idle (by decide) (by decide) (by decide)
  have shown : ∀ u, Within [.window, .journal] u → Idle u := fun u within =>
    within.idle (by decide) (by decide) (by decide)
  have window := releases.window.idle ⟨rfl, rfl, rfl⟩ shown
  have writer := releases.writer.idle ⟨rfl, rfl, rfl⟩ logged
  have camera := releases.camera.idle ⟨rfl, rfl, rfl⟩ logged
  exact idle_append window (idle_append writer camera)

end HatReel.Reel
