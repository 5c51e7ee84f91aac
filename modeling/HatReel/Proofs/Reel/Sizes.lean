import HatReel.Proofs.Reel.Body
import HatReel.Proofs.Reel.Progress

/-! A video holds frames of one size.

The recorder of a run is made for the size of the first frame, and keeps it. It writes frames of its
size only; a frame of another size ends the run, since what becomes of it is as large as it came. -/

namespace HatReel.Rig

/-- An event of a writer has to do with frames of the given size; other events fit always. -/
def Event.Fits (width height : Int) : Event → Prop
  | .writerOpen _ _ _ w h => w = width ∧ h = height
  | .writerWrite frame => (frame.width : Int) = width ∧ (frame.height : Int) = height
  | _ => True

theorem Event.fits_other {e : Event} (other : e.device ≠ .writer) (width height : Int) :
    e.Fits width height := by
  cases e <;> trivial

theorem fits_within {devices : List Device} {t : List Event} (within : Within devices t)
    (other : .writer ∉ devices) (width height : Int) : ∀ e ∈ t, e.Fits width height :=
  fun e member => Event.fits_other (fun same => other (same ▸ within e member)) width height

theorem within_joins {σ : Type} (devices : List Device) :
    Act.Joins fun (_ : σ) t (_ : σ) => Within devices t where
  nothing _ := Within.nil
  join first second := first.append second

end HatReel.Rig

namespace HatReel.Camera.Recorder

open HatReel.Image HatReel.Rig

theorem record_fits (r : Recorder) (frame : Frame) (w : World) :
    ∃ answer r' t, record frame (r, w) = ⟨answer, (r', w), t⟩ ∧ r'.width = r.width ∧
      r'.height = r.height ∧ Within [.writer] t ∧ ∀ e ∈ t, e.Fits r.width r.height := by
  unfold record
  rw [Act.get_bind]
  cases held : r.writer with
  | none =>
      simp only [held]
      exact ⟨_, r, [], rfl, rfl, rfl, Within.nil, by simp⟩
  | some writer =>
      simp only [held]
      split
      · exact ⟨_, r, [], rfl, rfl, rfl, Within.nil, by simp⟩
      · next size =>
        split
        · exact ⟨_, r, _, rfl, rfl, rfl, Within.single (by simp [Event.device]),
            by simp [Event.Fits]⟩
        · refine ⟨.ok (), { r with
            written := r.written + 1, writer := some { writer with count := writer.count + 1 } },
            [.writerWrite frame], rfl, rfl, rfl, Within.single (by simp [Event.device]), ?_⟩
          intro e member
          rw [List.mem_singleton.mp member]
          simpa [Event.Fits] using size

theorem record_resized {r : Recorder} {frame : Frame} (writing : r.writer.isSome = true)
    (other : ¬((frame.width : Int) = r.width ∧ (frame.height : Int) = r.height)) (w : World) :
    record frame (r, w) =
      ⟨.error (.frameSize frame.width frame.height r.width r.height), (r, w), []⟩ := by
  obtain ⟨writer, held⟩ := Option.isSome_iff_exists.mp writing
  have size : ((frame.width : Int) != r.width || (frame.height : Int) != r.height) = true := by
    rw [Bool.or_eq_true, bne_iff_ne, bne_iff_ne]
    exact Decidable.not_and_iff_or_not.mp other
  unfold record
  rw [Act.get_bind]
  simp only [held, size, if_true]
  rfl

end HatReel.Camera.Recorder

namespace HatReel.Reel

open HatReel.Camera HatReel.Image HatReel.Log HatReel.Model HatReel.Rig

def Stage.IsFor (s : Stage) (width height : Int) : Prop :=
  ∀ r ∈ s.recorder, r.width = width ∧ r.height = height

def Fits (width height : Int) (s : Stage) (t : List Event) (s' : Stage) : Prop :=
  s.IsFor width height → s'.IsFor width height ∧ ∀ e ∈ t, e.Fits width height

section

variable (width height : Int)

theorem fits_joins : Act.Joins (Fits width height) where
  nothing _ sized := ⟨sized, by simp⟩
  join := by
    intro s next last before after first second sized
    obtain ⟨sizedNext, fitsBefore⟩ := first sized
    obtain ⟨sizedLast, fitsAfter⟩ := second sizedNext
    refine ⟨sizedLast, fun e member => ?_⟩
    rcases List.mem_append.mp member with left | right
    · exact fitsBefore e left
    · exact fitsAfter e right

theorem fits_of_within (devices : List Device) {s s' : Stage} {t : List Event}
    (within : Within devices t) (other : .writer ∉ devices) (same : s'.recorder = s.recorder) :
    Fits width height s t s' := by
  intro sized
  refine ⟨?_, fits_within within other width height⟩
  unfold Stage.IsFor
  rw [same]
  exact sized

theorem within_log (message : String) :
    Act.Obeys (fun _ t _ => Within [.journal] t) (log .info loggerName message) :=
  Act.obeys_mono (log_logs _ _ _) fun _ _ _ logs => logs.within

theorem within_process (config : Config) (rotation : Matrix Float) (frame : Frame) :
    Act.Obeys (fun _ t _ => Within [.detector] t) (process config rotation frame) := by
  have joins := within_joins (σ := World) [.detector]
  apply Act.obeys_bind joins (Act.obeys_require joins _ _)
  intro gray
  apply Act.obeys_bind joins
  · apply Act.obeys_bind joins
    · intro w
      rw [detect_run]
      exact Within.single (by simp [search, Event.device])
    · intro faces
      rcases Draw.drawFaces frame faces with ⟨marked, _ | fault⟩
      · exact Act.obeys_pure joins _
      · exact Act.obeys_fail joins _
  intro marked
  apply Act.obeys_bind joins (Act.obeys_require joins _ _)
  intro drawn
  apply Act.obeys_bind joins (Act.obeys_require joins _ _)
  intro warped
  exact Act.obeys_pure joins _

section

variable {devices more : List Device} {α : Type} (wider : ∀ d ∈ devices, d ∈ more)

include wider

theorem within_onWorld {x : Act World α} (within : Act.Obeys (fun _ t _ => Within devices t) x) :
    Act.Obeys (fun _ t _ => Within more t) (Stage.onWorld x) :=
  Act.obeys_on within fun _ _ _ inner => inner.mono wider

theorem within_onPreview (default : α) {x : Act (Preview × World) α}
    (within : ∀ p w, Within devices (x (p, w)).trace) :
    Act.Obeys (fun _ t _ => Within more t) (Stage.onPreview default x) := by
  intro s
  cases held : s.preview with
  | none =>
      rw [Stage.onPreview_none default held]
      exact Within.nil
  | some p =>
      have inner := within p s.world
      rcases step : x (p, s.world) with ⟨answer, ⟨p', w⟩, t⟩
      rw [step] at inner
      rw [Stage.onPreview_run default held step]
      exact inner.mono wider

theorem within_onRecorder (default : α) {x : Act (Recorder × World) α}
    (within : ∀ r w, Within devices (x (r, w)).trace) :
    Act.Obeys (fun _ t _ => Within more t) (Stage.onRecorder default x) := by
  intro s
  cases held : s.recorder with
  | none =>
      rw [Stage.onRecorder_none default held]
      exact Within.nil
  | some r =>
      have inner := within r s.world
      rcases step : x (r, s.world) with ⟨answer, ⟨r', w⟩, t⟩
      rw [step] at inner
      rw [Stage.onRecorder_run default held step]
      exact inner.mono wider

end

theorem within_present (frame : Frame) (p : Preview) (w : World) :
    Within [.window, .journal] (Preview.present frame (p, w)).trace := by
  obtain ⟨w', t, step, -, within, -⟩ := Preview.present_run p frame w
  rw [step]
  exact within

theorem within_isVisible (p : Preview) (w : World) :
    Within [.window, .journal] (Preview.isVisible (p, w)).trace := by
  obtain ⟨p', w', t, step, -, -, within, -⟩ := Preview.isVisible_run p w
  rw [step]
  exact within

theorem within_record (frame : Frame) (r : Recorder) (w : World) :
    Within [.writer] (Recorder.record frame (r, w)).trace := by
  obtain ⟨answer, r', t, step, -, -, within, -⟩ := Recorder.record_fits r frame w
  rw [step]
  exact within

theorem fits_onWorld {α : Type} (devices : List Device) {x : Act World α}
    (within : Act.Obeys (fun _ t _ => Within devices t) x) (other : .writer ∉ devices) :
    Act.Obeys (Fits width height) (Stage.onWorld x) :=
  Act.obeys_on within fun _ _ _ inner => fits_of_within width height devices inner other rfl

theorem fits_log (message : String) :
    Act.Obeys (Fits width height) (Stage.onWorld (log .info loggerName message)) :=
  fits_onWorld width height [.journal] (within_log message) (by decide)

theorem fits_onPreview {α : Type} (default : α) {x : Act (Preview × World) α}
    (within : ∀ p w, Within [.window, .journal] (x (p, w)).trace) :
    Act.Obeys (Fits width height) (Stage.onPreview default x) := by
  intro s
  cases held : s.preview with
  | none =>
      rw [Stage.onPreview_none default held]
      exact (fits_joins width height).nothing s
  | some p =>
      have inner := within p s.world
      rcases step : x (p, s.world) with ⟨answer, ⟨p', w⟩, t⟩
      rw [step] at inner
      rw [Stage.onPreview_run default held step]
      exact fits_of_within width height [.window, .journal] inner (by decide) rfl

theorem fits_record (frame : Frame) :
    Act.Obeys (Fits width height) (Stage.onRecorder () (Recorder.record frame)) := by
  intro s
  cases held : s.recorder with
  | none =>
      rw [Stage.onRecorder_none () held]
      exact (fits_joins width height).nothing s
  | some r =>
      obtain ⟨answer, r', t, step, sameWidth, sameHeight, -, fits⟩ :=
        Recorder.record_fits r frame s.world
      rw [Stage.onRecorder_run () held step]
      intro sized
      obtain ⟨rfl, rfl⟩ := sized r held
      refine ⟨?_, fits⟩
      rintro _ ⟨⟩
      exact ⟨sameWidth, sameHeight⟩

theorem fits_start : Act.Obeys (Fits width height) (Stage.onRecorder () Recorder.start) := by
  intro s
  cases held : s.recorder with
  | none =>
      rw [Stage.onRecorder_none () held]
      exact (fits_joins width height).nothing s
  | some r =>
      have started := Recorder.start_started r s.world
      rcases step : Recorder.start (r, s.world) with ⟨answer, ⟨r', w⟩, t⟩
      rw [step] at started
      rw [Stage.onRecorder_run () held step]
      intro sized
      obtain ⟨rfl, rfl⟩ := sized r held
      cases started with
      | unopened fault w' scripts =>
          refine ⟨?_, by simp⟩
          rintro _ ⟨⟩
          exact ⟨rfl, rfl⟩
      | refused code w' scripts =>
          refine ⟨?_, by simp [Event.Fits, Recorder.opening]⟩
          rintro _ ⟨⟩
          exact ⟨rfl, rfl⟩
      | opened code writer w' t scripts within =>
          refine ⟨?_, ?_⟩
          · rintro _ ⟨⟩
            exact ⟨rfl, rfl⟩
          · intro e member
            rcases List.mem_cons.mp member with rfl | later
            · exact ⟨rfl, rfl⟩
            · exact fits_within within (by decide) _ _ e later

theorem kept_fits (config : Config) : KeptFilming config (Fits width height) where
  joins := fits_joins width height
  log message := fits_log width height message
  clock := by
    refine fits_onWorld width height [] (fun w => ?_) (by decide)
    obtain ⟨time, w', step, -⟩ := readClock_run w
    rw [step]
    exact Within.nil
  draw size := by
    refine fits_onWorld width height [] (fun w => ?_) (by decide)
    rw [(drawRotation_same config size w).2]
    exact Within.nil
  turn rotation s := fits_of_within width height [] Within.nil (by decide) rfl
  process rotation frame :=
    fits_onWorld width height [.detector] (within_process config rotation frame)
    (by decide)
  grab := by
    intro s
    cases capture : s.grabber.capture with
    | none =>
        rw [Stage.onGrabber_run (Grabber.grab_idle capture)]
        exact (fits_joins width height).nothing s
    | some held =>
        rw [Stage.onGrabber_run (Grabber.grab_held capture)]
        exact fits_of_within width height [.camera] (Within.single (by simp [Event.device]))
          (by decide) rfl
  isVisible := fits_onPreview width height true within_isVisible
  present frame := fits_onPreview width height () (within_present frame)
  record frame := fits_record width height frame

/-- From the start of a recorder on, all frames written have the recorder's size. -/
theorem fits_recording {demo : Demo} {frame : Frame} {s : Stage} (noRecorder : s.recorder = none) :
    ∀ e ∈ (recording demo frame s).trace, e.Fits frame.width frame.height := by
  have joins := fits_joins frame.width frame.height
  have equips : Act.Obeys (Fits frame.width frame.height)
      (.modify fun s => { s with recorder := some (demo.recorder frame) }) := by
    intro s _
    refine ⟨?_, by simp [Act.modify]⟩
    rintro _ ⟨⟩
    exact ⟨rfl, rfl⟩
  have obeys : Act.Obeys (Fits frame.width frame.height) (recording demo frame) := by
    apply Act.obeys_bind joins (fits_log _ _ _)
    intro _
    apply Act.obeys_bind joins equips
    intro _
    apply Act.obeys_bind joins (fits_start _ _)
    intro _
    apply Act.obeys_bind joins (Act.obeys_ofExcept joins _ _)
    intro p
    apply Act.obeys_bind joins
    · intro s
      exact fits_of_within _ _ [] Within.nil (by decide) rfl
    intro _
    exact (kept_fits _ _ demo.config).filming frame
  refine (obeys s ?_).2
  intro r held
  rw [noRecorder] at held
  cases held

end

end HatReel.Reel
