import HatReel.Proofs.Reel.Release
import HatReel.Proofs.Reel.Steps
import HatReel.Proofs.Rig.Lifecycle

/-! What the body of a run does to the devices, however it ends.

The body opens at most one writer. Apart from that it opens and ends nothing: what it holds it still
holds in the end, and a window that it has shown is on the screen. -/

namespace HatReel.Reel

open HatReel.Camera HatReel.Image HatReel.Log HatReel.Model HatReel.Rig

/-- Nothing is opened or ended; a camera and a writer are held as before, and a window that was on
the screen or was shown is on the screen. -/
structure Rolls (s : Stage) (t : List Event) (s' : Stage) : Prop where
  quiet : Quiet t
  started : s'.grabber.isStarted = s.grabber.isStarted
  writing : s'.isWriting = s.isWriting
  showing : s.isShowing = true ∨ shows t = true → s'.isShowing = true

theorem rolls_joins : Act.Joins Rolls where
  nothing := by
    intro s
    refine ⟨Quiet.nil, rfl, rfl, ?_⟩
    rintro (showing | shown)
    · exact showing
    · cases shown
  join := by
    intro s next last before after first second
    refine ⟨first.quiet.append second.quiet, second.started.trans first.started,
      second.writing.trans first.writing, ?_⟩
    intro either
    apply second.showing
    rw [shows_append, Bool.or_eq_true] at either
    rcases either with showing | shown | shownLater
    · exact Or.inl (first.showing (Or.inl showing))
    · exact Or.inl (first.showing (Or.inr shown))
    · exact Or.inr shownLater

def Still (_ : World) (t : List Event) (_ : World) : Prop := Quiet t ∧ shows t = false

theorem still_joins : Act.Joins Still where
  nothing _ := ⟨Quiet.nil, rfl⟩
  join := by
    intro w next last before after first second
    refine ⟨first.1.append second.1, ?_⟩
    rw [shows_append, first.2, second.2, Bool.or_false]

theorem still_log (level : Level) (logger message : String) :
    Act.Obeys Still (log level logger message) :=
  Act.obeys_mono (log_logs level logger message) fun _ _ _ logs =>
    ⟨logs.quiet, shows_within logs.within (by decide)⟩

theorem still_annotate (s : Settings.ClassifierSettings) (frame gray : Frame) :
    Act.Obeys Still (annotate s frame gray) := by
  have detects : Act.Obeys Still (detect s gray) := by
    intro w
    rw [detect_run]
    exact ⟨Quiet.single rfl, rfl⟩
  refine Act.obeys_bind still_joins detects fun faces => ?_
  rcases drawn : Draw.drawFaces frame faces with ⟨marked, fault⟩
  cases fault with
  | none => exact Act.obeys_pure still_joins _
  | some fault => exact Act.obeys_fail still_joins _

theorem still_process (config : Config) (rotation : Matrix Float) (frame : Frame) :
    Act.Obeys Still (process config rotation frame) := by
  refine Act.obeys_bind still_joins (Act.obeys_require still_joins _ _) fun gray => ?_
  refine Act.obeys_bind still_joins (still_annotate _ _ _) fun marked => ?_
  refine Act.obeys_bind still_joins (Act.obeys_require still_joins _ _) fun drawn => ?_
  refine Act.obeys_bind still_joins (Act.obeys_require still_joins _ _) fun warped => ?_
  exact Act.obeys_pure still_joins _

theorem still_readClock : Act.Obeys Still readClock := by
  intro w
  obtain ⟨time, w', step, _⟩ := readClock_run w
  rw [step]
  exact ⟨Quiet.nil, rfl⟩

theorem still_drawRotation (config : Config) (size : Float) :
    Act.Obeys Still (drawRotation config size) := by
  intro w
  rw [(drawRotation_same config size w).2]
  exact ⟨Quiet.nil, rfl⟩

theorem rolls_onWorld {α : Type} {x : Act World α} (still : Act.Obeys Still x) :
    Act.Obeys Rolls (Stage.onWorld x) := by
  refine Act.obeys_on still fun s t w ⟨quiet, unshown⟩ => ⟨quiet, rfl, rfl, ?_⟩
  rintro (showing | shown)
  · exact showing
  · rw [unshown] at shown
    cases shown

theorem rolls_grab : Act.Obeys Rolls (Stage.onGrabber Grabber.grab) := by
  intro s
  cases capture : s.grabber.capture with
  | none =>
      rw [Stage.onGrabber_run (Grabber.grab_idle capture)]
      exact rolls_joins.nothing s
  | some held =>
      rw [Stage.onGrabber_run (Grabber.grab_held capture)]
      refine ⟨Quiet.single rfl, ?_, rfl, ?_⟩
      · simp [Grabber.isStarted, capture]
      · rintro (showing | shown)
        · exact showing
        · cases shown

theorem rolls_isVisible : Act.Obeys Rolls (Stage.onPreview true Preview.isVisible) := by
  intro s
  cases held : s.preview with
  | none =>
      rw [Stage.onPreview_none true held]
      exact rolls_joins.nothing s
  | some p =>
      obtain ⟨p', w, t, step, isLeft, _, _, quiet, unshown⟩ := Preview.isVisible_run p s.world
      rw [Stage.onPreview_run true held step]
      refine ⟨quiet, rfl, rfl, ?_⟩
      rintro (showing | shown)
      · simpa [Stage.isShowing, Preview.isShowing, held, isLeft] using showing
      · rw [unshown] at shown
        cases shown

theorem rolls_present (frame : Frame) :
    Act.Obeys Rolls (Stage.onPreview () (Preview.present frame)) := by
  intro s
  cases held : s.preview with
  | none =>
      rw [Stage.onPreview_none () held]
      exact rolls_joins.nothing s
  | some p =>
      obtain ⟨w, t, step, _, _, quiet, shownIf⟩ := Preview.present_run p frame s.world
      rw [Stage.onPreview_run () held step]
      refine ⟨quiet, rfl, rfl, ?_⟩
      intro either
      have enabled : p.enabled = true := by
        rcases either with showing | shown
        · rw [Stage.isShowing, held] at showing
          exact (Bool.and_eq_true_iff.mp showing).1
        · rw [← shownIf]
          exact shown
      simp [Stage.isShowing, Preview.afterFrame, Preview.isShowing, enabled]

theorem rolls_record (frame : Frame) :
    Act.Obeys Rolls (Stage.onRecorder () (Recorder.record frame)) := by
  intro s
  cases held : s.recorder with
  | none =>
      rw [Stage.onRecorder_none () held]
      exact rolls_joins.nothing s
  | some r =>
      have recorded := Recorder.record_recorded r s.world frame
      rcases step : Recorder.record frame (r, s.world) with ⟨answer, ⟨r', w⟩, t⟩
      rw [Stage.onRecorder_run () held step]
      rw [step] at recorded
      have unshown : s.isShowing = true ∨ false = true → s.isShowing = true := by
        rintro (showing | shown)
        · exact showing
        · cases shown
      cases recorded with
      | refused fault => exact ⟨Quiet.nil, rfl, by simp [Stage.isWriting, held], unshown⟩
      | broken => exact ⟨Quiet.single rfl, rfl, by simp [Stage.isWriting, held], unshown⟩
      | written writer writer' writing =>
          exact ⟨Quiet.single rfl, rfl, by simp [Stage.isWriting, held, writing], unshown⟩

theorem rolls_turn (rotation : Matrix Float) :
    Act.Obeys Rolls (.modify fun s => { s with rotation := some rotation }) := by
  intro s
  refine ⟨Quiet.nil, rfl, rfl, ?_⟩
  rintro (showing | shown)
  · exact showing
  · cases shown

theorem kept_rolls (config : Config) : KeptFilming config Rolls where
  joins := rolls_joins
  log _ := rolls_onWorld (still_log _ _ _)
  clock := rolls_onWorld still_readClock
  draw _ := rolls_onWorld (still_drawRotation _ _)
  turn := rolls_turn
  process _ _ := rolls_onWorld (still_process _ _ _)
  grab := rolls_grab
  isVisible := rolls_isVisible
  present := rolls_present
  record := rolls_record

theorem rolls_filming (demo : Demo) (frame : Frame) : Act.Obeys Rolls (filming demo frame) :=
  (kept_rolls demo.config).filming frame

/-- How the body of a run can end that begins on stage `s`: without a recorder, with a writer that
did not open and was released, or with a writer that is still open. -/
inductive Filmed (s : Stage) : Ran Stage Stats → Prop where
  | unwritten (fault : Fault) (s' : Stage) (t : List Event) (rolls : Rolls s t s') :
      Filmed s ⟨.error fault, s', t⟩
  | refused (fault : Fault) (s' : Stage) (t : List Event) (r : Recorder) (code : Int)
      (rolls : Rolls s t s') (hidden : s'.isShowing = false) :
      Filmed s ⟨.error fault, s', t ++ [r.opening code, .writerRelease]⟩
  | opened (answer : Except Fault Stats) (s' : Stage) (t u : List Event) (r : Recorder)
      (code : Int) (before : Quiet t ∧ shows t = false) (after : Quiet u)
      (started : s'.grabber.isStarted = s.grabber.isStarted) (writing : s'.isWriting = true)
      (showing : shows u = true → s'.isShowing = true) :
      Filmed s ⟨answer, s', t ++ (r.opening code :: u)⟩

/-- What rolls without a window before a body that films belongs to it. -/
theorem filmed_after {s s' : Stage} {t : List Event} {ran : Ran Stage Stats}
    (rolls : Rolls s t s') (unshown : shows t = false) (filmed : Filmed s' ran) :
    Filmed s (ran.after t) := by
  cases filmed with
  | unwritten fault last u after =>
      exact .unwritten fault last (t ++ u) (rolls_joins.join rolls after)
  | refused fault last u r code after hidden =>
      rw [Ran.after, ← List.append_assoc]
      exact .refused fault last (t ++ u) r code (rolls_joins.join rolls after) hidden
  | opened answer last u v r code before after started writing showing =>
      rw [Ran.after, ← List.append_assoc]
      have silent : shows (t ++ u) = false := by
        rw [shows_append, unshown, before.2, Bool.or_false]
      exact .opened answer last (t ++ u) v r code ⟨rolls.quiet.append before.1, silent⟩ after
        (started.trans rolls.started) writing showing

/-- Once a writer is open, nothing more is opened, and whatever comes is filmed with it. -/
theorem filming_opened (demo : Demo) (frame : Frame) {s : Stage} (writing : s.isWriting = true) :
    ∃ answer s' u, (Act.ofExcept id (makePreview demo) >>= fun preview =>
        Act.modify (fun s : Stage => { s with preview := some preview }) >>= fun _ =>
        filming demo frame) s = ⟨answer, s', u⟩ ∧ Quiet u ∧
      s'.grabber.isStarted = s.grabber.isStarted ∧ s'.isWriting = true ∧
      (shows u = true → s'.isShowing = true) := by
  cases made : makePreview demo with
  | error fault =>
      refine ⟨.error fault, s, [], rfl, Quiet.nil, rfl, writing, ?_⟩
      intro never
      cases never
  | ok p =>
      have rolls := rolls_filming demo frame { s with preview := some p }
      rcases ran : filming demo frame { s with preview := some p } with ⟨answer, s', u⟩
      rw [ran] at rolls
      exact ⟨answer, s', u, Act.bind_run (Act.pure_run _ _)
        (Act.bind_run (Act.modify_run _ _) ran rfl) rfl, rolls.quiet, rolls.started,
        rolls.writing.trans writing, fun shown => rolls.showing (Or.inr shown)⟩

theorem starting_filmed {demo : Demo} {frame : Frame} {s : Stage} {r : Recorder}
    (held : s.recorder = some r) (noPreview : s.preview = none) :
    Filmed s ((Stage.onRecorder () Recorder.start >>= fun _ =>
      Act.ofExcept id (makePreview demo) >>= fun preview =>
      Act.modify (fun s : Stage => { s with preview := some preview }) >>= fun _ =>
      filming demo frame) s) := by
  have rolls (w : World) : Rolls s [] { s with recorder := some r, world := w } := by
    refine ⟨Quiet.nil, rfl, by simp [Stage.isWriting, held], ?_⟩
    rintro (showing | shown)
    · exact showing
    · cases shown
  have started := Recorder.start_started r s.world
  rcases start : Recorder.start (r, s.world) with ⟨answer, ⟨r', w⟩, t⟩
  have starts := Stage.onRecorder_run () held start
  rw [start] at started
  cases started with
  | unopened fault w scripts =>
      rw [Act.bind_of_error _ starts]
      exact .unwritten fault _ [] (rolls w)
  | refused code w scripts =>
      rw [Act.bind_of_error _ starts]
      exact .refused _ _ [] r code (rolls w) (by simp [Stage.isShowing, noPreview])
  | opened code writer w t scripts within =>
      rw [Act.bind_of_ok _ starts]
      obtain ⟨answer, s', u, ran, quiet, sameStarted, writing, showing⟩ :=
        filming_opened demo frame (s := { s with
          recorder := some { r with writer := some writer }, world := w }) rfl
      rw [ran]
      have logged : shows t = false := shows_within within (by decide)
      refine .opened answer s' [] (t ++ u) r code ⟨Quiet.nil, rfl⟩ (within.quiet.append quiet)
        sameStarted writing ?_
      rw [shows_append, logged, Bool.false_or]
      exact showing

theorem recording_filmed {demo : Demo} {frame : Frame} {s : Stage} (noRecorder : s.recorder = none)
    (noPreview : s.preview = none) : Filmed s (recording demo frame s) := by
  obtain ⟨w, sizing, logged, logs⟩ := log_run .info loggerName
    s!"Frame size: {frame.width}x{frame.height}" s.world
  have unshown : shows sizing = false := shows_within logs.within (by decide)
  have hidden {s' : Stage} : s.isShowing = true ∨ false = true → s'.isShowing = true := by
    simp [Stage.isShowing, noPreview]
  have sized : Rolls s sizing { s with world := w } := by
    refine ⟨logs.quiet, rfl, rfl, ?_⟩
    rw [unshown]
    exact hidden
  have noted : Rolls { s with world := w } []
      { s with recorder := some (demo.recorder frame), world := w } := by
    refine ⟨Quiet.nil, rfl, ?_, hidden⟩
    simp [Stage.isWriting, noRecorder, Demo.recorder]
  unfold recording
  rw [Act.bind_of_ok _ (Stage.onWorld_run logged)]
  apply filmed_after sized unshown
  rw [Act.bind_of_ok _ (Act.modify_run _ _)]
  exact filmed_after noted rfl (starting_filmed rfl noPreview)

theorem body_filmed {demo : Demo} {s : Stage} (noRecorder : s.recorder = none)
    (noPreview : s.preview = none) : Filmed s (body demo s) := by
  have grabs := rolls_grab s
  rw [body_eq]
  cases capture : s.grabber.capture with
  | none =>
      have idle := Stage.onGrabber_run (s := s) (Grabber.grab_idle (w := s.world) capture)
      rw [idle] at grabs
      rw [Act.bind_of_error _ idle]
      exact .unwritten _ _ _ grabs
  | some held =>
      have grabbed := Stage.onGrabber_run (s := s) (Grabber.grab_held (w := s.world) capture)
      rw [grabbed] at grabs
      rw [Act.bind_of_ok _ grabbed]
      apply filmed_after grabs rfl
      cases (next none held.reads).1 with
      | none => exact .unwritten _ _ _ (rolls_joins.nothing _)
      | some frame => exact recording_filmed noRecorder noPreview

end HatReel.Reel
