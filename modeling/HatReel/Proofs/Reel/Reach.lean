import HatReel.Proofs.Reel.Outcome
import HatReel.Proofs.Reel.Sizes

/-! Which devices a run reaches.

Once its model has been loaded a run has no more to do with the model and with the network: this
holds of every step of its body, and of what comes before and after. -/

namespace HatReel.Reel

open HatReel.Camera HatReel.Image HatReel.Log HatReel.Model HatReel.Rig

def studio : List Device := [.camera, .writer, .window, .detector, .journal]

abbrev Indoors {σ : Type} (_ : σ) (t : List Event) (_ : σ) : Prop := Within studio t

theorem indoors_joins {σ : Type} : Act.Joins (Indoors (σ := σ)) := within_joins studio

theorem indoors_grab : Act.Obeys Indoors (Stage.onGrabber Grabber.grab) := by
  intro s
  cases capture : s.grabber.capture with
  | none =>
      rw [Stage.onGrabber_run (Grabber.grab_idle capture)]
      exact Within.nil
  | some held =>
      rw [Stage.onGrabber_run (Grabber.grab_held capture)]
      exact Within.single (by simp [Event.device, studio])

theorem indoors_begin (r : Recorder) (w : World) : Within studio (Recorder.start (r, w)).trace := by
  have started := Recorder.start_started r w
  have opening {code : Int} : (r.opening code).device ∈ studio := by
    simp [Recorder.opening, Event.device, studio]
  generalize Recorder.start (r, w) = ran at started
  cases started with
  | unopened fault w' scripts => exact Within.nil
  | refused code w' scripts => exact Within.cons opening (Within.single (by decide))
  | opened code writer w' t scripts within => exact Within.cons opening (within.mono (by decide))

theorem kept_indoors (demo : Demo) : Kept demo Indoors where
  joins := indoors_joins
  log message := within_onWorld (by decide) (within_log message)
  clock := by
    have silent : Act.Obeys (fun _ t _ => Within [] t) readClock := by
      intro w
      obtain ⟨time, w', step, -⟩ := readClock_run w
      rw [step]
      exact Within.nil
    exact within_onWorld (by decide) silent
  draw size := by
    have silent : Act.Obeys (fun _ t _ => Within [] t) (drawRotation demo.config size) := by
      intro w
      rw [(drawRotation_same demo.config size w).2]
      exact Within.nil
    exact within_onWorld (by decide) silent
  turn rotation _ := Within.nil
  process rotation frame := within_onWorld (by decide) (within_process demo.config rotation frame)
  grab := indoors_grab
  isVisible := within_onPreview (by decide) true within_isVisible
  present frame := within_onPreview (by decide) () (within_present frame)
  record frame := within_onRecorder (by decide) () (within_record frame)
  equip frame _ := Within.nil
  start := within_onRecorder (fun _ inside => inside) () indoors_begin
  open_preview p _ _ := Within.nil

theorem LetsGo.indoors {ending : Event} {devices : List Device} {opened : Bool} {t : List Event}
    (lets : LetsGo ending devices opened t) (own : ending.device ∈ studio)
    (rest : ∀ d ∈ devices, d ∈ studio) : Within studio t := by
  cases lets with
  | unused => exact Within.nil
  | used u within quiet => exact Within.cons own (within.mono rest)

theorem indoors_release : Act.Obeys Indoors release := by
  intro s
  obtain ⟨w, t₁, t₂, t₃, released, window, writer, camera⟩ := release_run s
  rw [released]
  have closing := window.indoors (by simp [Event.device, studio]) (by decide)
  have finishing := writer.indoors (by decide) (by decide)
  exact closing.append (finishing.append (camera.indoors (by decide) (by decide)))

theorem indoors_start : Act.Obeys Indoors (Stage.onGrabber Grabber.start) := by
  intro s
  have opening : (Event.captureOpen s.grabber.source).device ∈ studio := by
    simp [Event.device, studio]
  cases opens : (Grabber.nextCapture s.world).opens with
  | false =>
      rw [Stage.onGrabber_run (Grabber.start_refused opens)]
      exact Within.cons opening (Within.single (by decide))
  | true =>
      obtain ⟨w', t, started, -, within, -⟩ := Grabber.start_opened (g := s.grabber) opens
      rw [Stage.onGrabber_run started]
      exact Within.cons opening (within.mono (by decide))

/-- From its loaded model on a run stays in the studio. -/
theorem indoors_perform (demo : Demo) : Act.Obeys Indoors (perform demo) := by
  apply Act.obeys_bind indoors_joins indoors_start
  intro _
  apply Act.obeys_bind indoors_joins
  · exact Act.obeys_ensuring indoors_joins (kept_indoors demo).body indoors_release
  intro stats
  apply Act.obeys_bind indoors_joins (within_onWorld (by decide) (within_log stats.summary))
  intro _
  exact Act.obeys_pure indoors_joins stats

end HatReel.Reel
