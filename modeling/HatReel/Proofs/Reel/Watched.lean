import HatReel.Proofs.Reel.Outcome
import HatReel.Proofs.Reel.Steps

/-! What closes a preview.

A preview that is open stays open as long as no key that is read means quitting and no answer says
that the window is gone. Keys are in the events; an answer is not, but every question takes the next
one of those to come. -/

namespace HatReel.Rig

namespace Event

def key? : Event → Option Int
  | .waitKey _ key => some key
  | _ => none

def isQuestion : Event → Bool
  | .windowVisible _ => true
  | _ => false

def isDestruction : Event → Bool
  | .destroyWindow _ => true
  | _ => false

theorem isQuestion_other {e : Event} (other : e.device ≠ .window) : e.isQuestion = false := by
  cases e <;> first | rfl | exact absurd rfl other

theorem isDestruction_other {e : Event} (other : e.device ≠ .window) :
    e.isDestruction = false := by
  cases e <;> first | rfl | exact absurd rfl other

end Event

def keysRead (t : List Event) : List Int := t.filterMap Event.key?

def questions (t : List Event) : Nat := t.countP Event.isQuestion

def untilDestroyed (t : List Event) : List Event := t.takeWhile fun e => !e.isDestruction

theorem keysRead_append (t u : List Event) : keysRead (t ++ u) = keysRead t ++ keysRead u :=
  List.filterMap_append

theorem questions_append (t u : List Event) : questions (t ++ u) = questions t + questions u :=
  List.countP_append

theorem untilDestroyed_append {t : List Event} (standing : ∀ e ∈ t, e.isDestruction = false)
    (u : List Event) : untilDestroyed (t ++ u) = t ++ untilDestroyed u :=
  List.takeWhile_append_of_pos fun e member => by rw [standing e member, Bool.not_false]

/-- Nothing is asked of a window or done to it, and the answers about one stay to come. -/
structure Unwatched (w : World) (t : List Event) (w' : World) : Prop where
  windowless : ∀ e ∈ t, e.device ≠ .window
  answers : w'.scripts.visible = w.scripts.visible

theorem unwatched_joins : Act.Joins Unwatched where
  nothing _ := ⟨by simp, rfl⟩
  join first second :=
    ⟨fun e member => (List.mem_append.mp member).elim (first.windowless e) (second.windowless e),
      second.answers.trans first.answers⟩

theorem unwatched_within {devices : List Device} {w w' : World} {t : List Event}
    (within : Within devices t) (other : .window ∉ devices)
    (answers : w'.scripts.visible = w.scripts.visible) : Unwatched w t w' :=
  ⟨fun e member same => other (same ▸ within e member), answers⟩

theorem Logs.unwatched {w w' : World} {t : List Event} (logs : Logs w t w') : Unwatched w t w' :=
  unwatched_within logs.within (by decide) (by rw [logs.scripts])

theorem unwatched_readClock : Act.Obeys Unwatched readClock := by
  intro w
  obtain ⟨time, w', step, clock, scripts⟩ := readClock_run w
  rw [step]
  exact ⟨by simp, by rw [scripts]⟩

theorem next_cases {α : Type} (default : α) (outcomes : List α) :
    (next default outcomes).2 = outcomes.drop 1 ∧
      ((next default outcomes).1 ∈ outcomes.take 1 ∨ (next default outcomes).1 = default) := by
  cases outcomes with
  | nil => exact ⟨rfl, Or.inr rfl⟩
  | cons a rest => exact ⟨rfl, Or.inl List.mem_cons_self⟩

end HatReel.Rig

namespace HatReel.Reel

open HatReel.Camera HatReel.Image HatReel.Log HatReel.Model HatReel.Rig

theorem unwatched_loadModel (demo : Demo) : Act.Obeys Unwatched (loadModel demo) :=
  Act.obeys_mono (fetches_loadModel demo) fun w t w' fetches => by
    obtain ⟨responses, scripts⟩ := fetches.scripts
    exact unwatched_within fetches.within (by decide) (by rw [scripts])

theorem unwatched_drawRotation (config : Config) (size : Float) :
    Act.Obeys Unwatched (drawRotation config size) := by
  intro w
  obtain ⟨same, silent⟩ := drawRotation_same config size w
  rw [same, silent]
  exact unwatched_joins.nothing w

theorem unwatched_annotate (s : Settings.ClassifierSettings) (frame gray : Frame) :
    Act.Obeys Unwatched (annotate s frame gray) := by
  have detects : Act.Obeys Unwatched (detect s gray) := by
    intro w
    rw [detect_run]
    exact ⟨by simp [search, Event.device], rfl⟩
  refine Act.obeys_bind unwatched_joins detects fun faces => ?_
  rcases drawn : Draw.drawFaces frame faces with ⟨marked, fault⟩
  cases fault with
  | none => exact Act.obeys_pure unwatched_joins _
  | some fault => exact Act.obeys_fail unwatched_joins _

theorem unwatched_process (config : Config) (rotation : Matrix Float) (frame : Frame) :
    Act.Obeys Unwatched (process config rotation frame) := by
  refine Act.obeys_bind unwatched_joins (Act.obeys_require unwatched_joins _ _) fun gray => ?_
  refine Act.obeys_bind unwatched_joins (unwatched_annotate _ _ _) fun marked => ?_
  refine Act.obeys_bind unwatched_joins (Act.obeys_require unwatched_joins _ _) fun drawn => ?_
  refine Act.obeys_bind unwatched_joins (Act.obeys_require unwatched_joins _ _) fun warped => ?_
  exact Act.obeys_pure unwatched_joins _

def Stage.isClosed (s : Stage) : Bool := s.preview.any Preview.closed

/-- No window is destroyed. Every question takes an answer, and a preview that is not closed is not
closed afterwards if no key that is read means quitting and no answer says that the window is
gone. -/
structure Watched (s : Stage) (t : List Event) (s' : Stage) : Prop where
  standing : ∀ e ∈ t, e.isDestruction = false
  answers : s'.world.scripts.visible = s.world.scripts.visible.drop (questions t)
  closes : s.isClosed = false → (∀ key ∈ keysRead t, Preview.isQuitKey key = false) →
    (∀ answer ∈ s.world.scripts.visible.take (questions t), ¬ answer < 1.0) → s'.isClosed = false

theorem watched_joins : Act.Joins Watched where
  nothing _ := ⟨by simp, rfl, fun isOpen _ _ => isOpen⟩
  join := by
    intro s next last before after first second
    refine ⟨?_, ?_, ?_⟩
    · intro e member
      exact (List.mem_append.mp member).elim (first.standing e) (second.standing e)
    · rw [second.answers, first.answers, List.drop_drop, questions_append]
    · intro isOpen keys answers
      rw [keysRead_append, List.forall_mem_append] at keys
      rw [questions_append, List.take_add, List.forall_mem_append, ← first.answers] at answers
      exact second.closes (first.closes isOpen keys.1 answers.1) keys.2 answers.2

/-- What has nothing to do with a window leaves the preview as it is. -/
theorem watched_windowless {s s' : Stage} {t : List Event}
    (unwatched : Unwatched s.world t s'.world) (same : s'.isClosed = s.isClosed) :
    Watched s t s' := by
  have unasked : questions t = 0 := List.countP_eq_zero.mpr fun e member => by
    rw [Event.isQuestion_other (unwatched.windowless e member)]
    exact Bool.false_ne_true
  refine ⟨fun e member => Event.isDestruction_other (unwatched.windowless e member), ?_, ?_⟩
  · rw [unasked, List.drop_zero, unwatched.answers]
  · intro isOpen _ _
    rw [same, isOpen]

theorem watched_onWorld {α : Type} {x : Act World α} (unwatched : Act.Obeys Unwatched x) :
    Act.Obeys Watched (Stage.onWorld x) :=
  Act.obeys_on unwatched fun _ _ _ unwatched => watched_windowless unwatched rfl

theorem watched_log (message : String) :
    Act.Obeys Watched (Stage.onWorld (log .info loggerName message)) :=
  watched_onWorld (Act.obeys_mono (log_logs _ _ _) fun _ _ _ logs => logs.unwatched)

theorem watched_grab : Act.Obeys Watched (Stage.onGrabber Grabber.grab) := by
  intro s
  cases capture : s.grabber.capture with
  | none =>
      rw [Stage.onGrabber_run (Grabber.grab_idle capture)]
      exact watched_joins.nothing s
  | some held =>
      rw [Stage.onGrabber_run (Grabber.grab_held capture)]
      exact watched_windowless ⟨by simp [Event.device], rfl⟩ rfl

theorem watched_startGrabber : Act.Obeys Watched (Stage.onGrabber Grabber.start) := by
  intro s
  cases opens : (Grabber.nextCapture s.world).opens with
  | false =>
      rw [Stage.onGrabber_run (Grabber.start_refused opens)]
      exact watched_windowless ⟨by simp [Event.device], rfl⟩ rfl
  | true =>
      obtain ⟨w, t, step, scripts, within, _, _⟩ := Grabber.start_opened (g := s.grabber) opens
      rw [Stage.onGrabber_run step]
      have opening : Within [.camera, .journal] (.captureOpen s.grabber.source :: t) :=
        Within.cons (by simp [Event.device]) within
      have answers : w.scripts.visible = s.world.scripts.visible := by
        rw [scripts]
        rfl
      exact watched_windowless (unwatched_within opening (by decide) answers) rfl

section

variable {s : Stage} (p : Preview) (held : s.preview = some p)

include held

theorem watched_asking :
    Watched s p.asking { s with
      preview := some { p with closed := p.closed || !p.looksOpen s.world.scripts.visible }
      world := { s.world with scripts :=
        { s.world.scripts with visible := p.answersLeft s.world.scripts.visible } } } := by
  obtain ⟨rest, first⟩ := next_cases 1.0 s.world.scripts.visible
  cases asks : p.enabled && !p.closed && p.shown with
  | false =>
      have asking : p.asking = [] := by simp [Preview.asking, asks]
      rw [asking]
      refine ⟨by simp, by simp [Preview.answersLeft, asks, questions], ?_⟩
      intro isOpen _ _
      have notClosed : p.closed = false := by simpa [Stage.isClosed, held] using isOpen
      have looksOpen : p.looksOpen s.world.scripts.visible = true := by
        rw [notClosed, Bool.not_false, Bool.and_true] at asks
        cases enabled : p.enabled with
        | false => simp [Preview.looksOpen, enabled]
        | true =>
            have hidden : p.shown = false := by simpa [enabled] using asks
            simp [Preview.looksOpen, notClosed, hidden]
      simp [Stage.isClosed, notClosed, looksOpen]
  | true =>
      have asking : p.asking = [.windowVisible p.title] := by simp [Preview.asking, asks]
      rw [asking]
      refine ⟨by simp [Event.isDestruction], ?_, ?_⟩
      · simp only [Preview.answersLeft, asks, if_true]
        exact rest
      · intro isOpen _ answers
        have notClosed : p.closed = false := by simpa [Stage.isClosed, held] using isOpen
        have there : ¬ (next 1.0 s.world.scripts.visible).1 < 1.0 := by
          rcases first with inside | usedUp
          · exact answers _ inside
          · rw [usedUp]
            decide +kernel
        simp [Stage.isClosed, Preview.looksOpen, notClosed, there]

theorem watched_showing (frame : Frame) :
    Watched s (p.showing frame s.world.scripts.keys)
      { s with preview := some (p.afterFrame s.world.scripts.keys) } := by
  cases enabled : p.enabled with
  | false =>
      have showing : p.showing frame s.world.scripts.keys = [] := by
        simp [Preview.showing, enabled]
      have same : p.afterFrame s.world.scripts.keys = p := by simp [Preview.afterFrame, enabled]
      rw [showing, same, ← held]
      exact watched_joins.nothing s
  | true =>
      simp only [Preview.showing, Preview.afterFrame, enabled, if_true]
      refine ⟨by simp [Event.isDestruction], rfl, ?_⟩
      intro isOpen keys _
      have notClosed : p.closed = false := by simpa [Stage.isClosed, held] using isOpen
      have stays := keys (next (-1) s.world.scripts.keys).1 List.mem_cons_self
      simp [Stage.isClosed, notClosed, stays]

end

theorem watched_isVisible : Act.Obeys Watched (Stage.onPreview true Preview.isVisible) := by
  rintro ⟨grabber, recorder, preview, rotation, w⟩
  cases preview with
  | none => exact watched_joins.nothing _
  | some p =>
      obtain ⟨w', logged, step, scripts, within⟩ := Preview.isVisible_asking p w
      rw [Stage.onPreview_run true rfl step]
      refine watched_joins.join (watched_asking p rfl)
        (watched_windowless (unwatched_within within (by decide) ?_) rfl)
      change w'.scripts.visible = _
      rw [scripts]

theorem watched_present (frame : Frame) :
    Act.Obeys Watched (Stage.onPreview () (Preview.present frame)) := by
  rintro ⟨grabber, recorder, preview, rotation, w⟩
  cases preview with
  | none => exact watched_joins.nothing _
  | some p =>
      obtain ⟨w', logged, step, scripts, within⟩ := Preview.present_showing p frame w
      rw [Stage.onPreview_run () rfl step]
      refine watched_joins.join (watched_showing p rfl frame)
        (watched_windowless (unwatched_within within (by decide) ?_) rfl)
      change w'.scripts.visible = _
      rw [scripts]

theorem watched_record (frame : Frame) :
    Act.Obeys Watched (Stage.onRecorder () (Recorder.record frame)) := by
  rintro ⟨grabber, recorder, preview, rotation, w⟩
  cases recorder with
  | none => exact watched_joins.nothing _
  | some r =>
      have recorded := Recorder.record_recorded r w frame
      rcases step : Recorder.record frame (r, w) with ⟨answer, ⟨r', w'⟩, t⟩
      rw [Stage.onRecorder_run () rfl step]
      rw [step] at recorded
      cases recorded with
      | refused fault => exact watched_windowless ⟨by simp, rfl⟩ rfl
      | broken => exact watched_windowless ⟨by simp [Event.device], rfl⟩ rfl
      | written writer writer' held => exact watched_windowless ⟨by simp [Event.device], rfl⟩ rfl

theorem watched_start : Act.Obeys Watched (Stage.onRecorder () Recorder.start) := by
  rintro ⟨grabber, recorder, preview, rotation, w⟩
  cases recorder with
  | none => exact watched_joins.nothing _
  | some r =>
      have started := Recorder.start_started r w
      rcases step : Recorder.start (r, w) with ⟨answer, ⟨r', w'⟩, t⟩
      rw [Stage.onRecorder_run () rfl step]
      rw [step] at started
      refine watched_windowless ?_ rfl
      cases started with
      | unopened fault w' scripts => exact ⟨by simp, congrArg Scripts.visible scripts⟩
      | refused code w' scripts =>
          have answers : w'.scripts.visible = w.scripts.visible := by
            rw [scripts]
            rfl
          exact ⟨by simp [Recorder.opening, Event.device], answers⟩
      | opened code writer w' t scripts within =>
          have answers : w'.scripts.visible = w.scripts.visible := by
            rw [scripts]
            rfl
          have opening : Within [.writer, .journal] (r.opening code :: t) :=
            Within.cons (by simp [Recorder.opening, Event.device]) (within.mono (by decide))
          exact unwatched_within opening (by decide) answers

theorem makePreview_fresh {demo : Demo} {p : Preview} (own : demo.preview = none)
    (made : makePreview demo = .ok p) :
    p.enabled = demo.config.display.enabled ∧ p.closed = false := by
  unfold makePreview at made
  rw [own] at made
  simp only [Preview.make] at made
  split at made
  · cases made
    exact ⟨rfl, rfl⟩
  · split at made
    · cases made
      exact ⟨rfl, rfl⟩
    · cases made

theorem kept_watched {demo : Demo} (own : demo.preview = none) : Kept demo Watched where
  joins := watched_joins
  log := watched_log
  clock := watched_onWorld unwatched_readClock
  draw _ := watched_onWorld (unwatched_drawRotation _ _)
  turn _ s := watched_windowless (unwatched_joins.nothing s.world) rfl
  process _ _ := watched_onWorld (unwatched_process _ _ _)
  grab := watched_grab
  isVisible := watched_isVisible
  present := watched_present
  record := watched_record
  equip _ s := watched_windowless (unwatched_joins.nothing s.world) rfl
  start := watched_start
  open_preview p made s := ⟨by simp [Act.modify], rfl, fun _ _ _ => (makePreview_fresh own made).2⟩

theorem watched_attempt {demo : Demo} (own : demo.preview = none) :
    Act.Obeys Watched (attempt demo) :=
  Act.obeys_bind watched_joins (watched_onWorld (unwatched_loadModel demo)) fun _ =>
    Act.obeys_bind watched_joins watched_startGrabber fun _ => (kept_watched own).body

end HatReel.Reel
