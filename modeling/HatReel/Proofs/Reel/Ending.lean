import HatReel.Proofs.Reel.Body
import HatReel.Proofs.Reel.Outcome

/-! Every device is let go, however a run ends. -/

namespace HatReel.Reel

open HatReel.Camera HatReel.Rig

section

variable {ending : Event} {devices more : List Device} {opened : Bool} {t : List Event}

theorem LetsGo.lifecycle (lets : LetsGo ending devices opened t) (device : Device) :
    Rig.lifecycle device t = if opened then Rig.lifecycle device [ending] else [] := by
  cases lets with
  | unused => rfl
  | used u within quiet =>
      change Rig.lifecycle device ([ending] ++ u) = _
      rw [lifecycle_append, quiet.lifecycle, List.append_nil, if_pos rfl]

theorem LetsGo.endings (lets : LetsGo ending devices opened t) :
    Rig.endings t = if opened then Rig.endings [ending] else [] := by
  cases lets with
  | unused => rfl
  | used u within quiet =>
      change Rig.endings ([ending] ++ u) = _
      rw [endings_append, quiet.endings, List.append_nil, if_pos rfl]

theorem LetsGo.within (lets : LetsGo ending devices opened t) (own : ending.device ∈ more)
    (wider : ∀ d ∈ devices, d ∈ more) : Within more t := by
  cases lets with
  | unused => exact Within.nil
  | used u within quiet => exact Within.cons own (within.mono wider)

theorem LetsGo.harmless (lets : LetsGo ending devices opened t)
    (own : ∀ later, ending.Allows later) : Harmless t := by
  cases lets with
  | unused => exact Quiet.nil.harmless
  | used u within quiet => exact Harmless.cons own quiet.harmless

end

section

variable {s : Stage} {t₁ t₂ t₃ summing : List Event} (releases : Releases s t₁ t₂ t₃)
  (logs : Within [.journal] summing)

include releases logs

theorem Releases.lifecycle (device : Device) :
    Rig.lifecycle device (t₁ ++ (t₂ ++ t₃) ++ summing) =
      (if s.isShowing then Rig.lifecycle device [.destroyWindow s.title] else []) ++
        ((if s.isWriting then Rig.lifecycle device [.writerRelease] else []) ++
          if s.grabber.isStarted then Rig.lifecycle device [.captureRelease] else []) := by
  rw [lifecycle_append, lifecycle_append, lifecycle_append, releases.window.lifecycle,
    releases.writer.lifecycle, releases.camera.lifecycle, logs.quiet.lifecycle, List.append_nil]

theorem Releases.endings :
    Rig.endings (t₁ ++ (t₂ ++ t₃) ++ summing) =
      (if s.isShowing then [.window] else []) ++ ((if s.isWriting then [.writer] else []) ++
        if s.grabber.isStarted then [.camera] else []) := by
  rw [endings_append, endings_append, endings_append, releases.window.endings,
    releases.writer.endings, releases.camera.endings, logs.quiet.endings, List.append_nil]
  rfl

/-- Without a writer the release has nothing to do with one. -/
theorem Releases.within (idle : s.isWriting = false) :
    Within [.window, .camera, .journal] (t₁ ++ (t₂ ++ t₃) ++ summing) := by
  have window : Within [.window, .camera, .journal] t₁ :=
    releases.window.within (by simp [Event.device]) (by decide)
  have camera : Within [.window, .camera, .journal] t₃ :=
    releases.camera.within (by simp [Event.device]) (by decide)
  have writer := releases.writer
  rw [idle] at writer
  cases writer with
  | unused => exact (window.append camera).append (logs.mono (by decide))

theorem Releases.orderly (started : s.grabber.isStarted = true) :
    Orderly (t₁ ++ (t₂ ++ t₃) ++ summing) := by
  have camera : Orderly (t₃ ++ summing) ∧ Within [.camera, .journal] (t₃ ++ summing) := by
    have last := releases.camera
    rw [started] at last
    cases last with
    | used u within quiet =>
        refine ⟨orderly_captureRelease (within.append logs), ?_⟩
        exact Within.cons (by simp [Event.device]) ((within.append logs).mono (by decide))
  have writer : Orderly (t₂ ++ (t₃ ++ summing)) := by
    have writer := releases.writer
    generalize s.isWriting = writing at writer
    cases writer with
    | unused => exact camera.1
    | used u within quiet =>
        have rest : Within [.camera, .journal] (u ++ (t₃ ++ summing)) :=
          (within.mono (by decide)).append camera.2
        exact orderly_writerRelease rest (by decide) (quiet.harmless.orderly_append camera.1)
  rw [List.append_assoc, List.append_assoc]
  exact (releases.window.harmless fun _ => trivial).orderly_append writer

end

/-- A run has ended well, whatever came of its attempt: it ends as the attempt has ended before the
release. -/
structure Ended (demo : Demo) (tried : Ran Stage Stats) (ran : Ran (Demo × World) Stats) :
    Prop where
  answer : ran.answer = tried.answer
  /-- The camera is opened at most once, and then released once. -/
  camera : lifecycle .camera ran.trace = [] ∨
    lifecycle .camera ran.trace = [.captureOpen demo.grabber.source, .captureRelease]
  /-- So is the writer. -/
  writer : lifecycle .writer ran.trace = [] ∨
    ∃ (r : Recorder) (code : Int),
      lifecycle .writer ran.trace = [r.opening code, .writerRelease]
  /-- A window is destroyed, once, exactly if it is on the screen when the attempt is over. -/
  window : lifecycle .window ran.trace =
    if tried.state.isShowing then [.destroyWindow tried.state.title] else []
  shown : shows ran.trace = true → tried.state.isShowing = true
  order : (endings ran.trace).Sublist [.window, .writer, .camera]
  orderly : Orderly ran.trace
  stopped : ran.state.1.grabber.isStarted = false

theorem order_sublist (window writer : Bool) :
    ((if window then [Device.window] else []) ++ ((if writer then [Device.writer] else []) ++
      [Device.camera])).Sublist [.window, .writer, .camera] := by
  cases window <;> cases writer <;> decide

/-- What a body leaves for the release: a writer is open, or none is and at most one was refused. -/
inductive Leaves (s : Stage) (t : List Event) : Prop where
  | nothing (idle : s.isWriting = false) (noEvent : lifecycle .writer t = [])
      (ended : endings t = []) : Leaves s t
  | refused (idle : s.isWriting = false) (hidden : s.isShowing = false) (r : Recorder) (code : Int)
      (one : lifecycle .writer t = [r.opening code, .writerRelease])
      (ended : endings t = [.writer]) : Leaves s t
  | writer (writing : s.isWriting = true) (r : Recorder) (code : Int)
      (one : lifecycle .writer t = [r.opening code]) (ended : endings t = []) : Leaves s t

/-- A body touches the camera and the window in no other way than using them. -/
structure Leaving (s : Stage) (t : List Event) : Prop where
  leaves : Leaves s t
  camera : lifecycle .camera t = []
  window : lifecycle .window t = []
  shown : shows t = true → s.isShowing = true
  orderly : ∀ u, Orderly u → (s.isWriting = false → Within [.window, .camera, .journal] u) →
    Orderly (t ++ u)

theorem opening_harmless (r : Recorder) (code : Int) : Harmless [r.opening code] := by
  intro e member later
  rw [List.mem_singleton.mp member]
  exact trivial

theorem filmed_leaving {s₀ s : Stage} {answer : Except Fault Stats} {t : List Event}
    (filmed : Filmed s₀ ⟨answer, s, t⟩) (idle : s₀.isWriting = false) :
    Leaving s t ∧ s.grabber.isStarted = s₀.grabber.isStarted := by
  cases filmed with
  | unwritten fault s t rolls =>
      have quiet := rolls.quiet
      exact ⟨⟨.nothing (rolls.writing.trans idle) (quiet.lifecycle _) quiet.endings,
        quiet.lifecycle _, quiet.lifecycle _, fun shown => rolls.showing (Or.inr shown),
        fun u rest _ => quiet.harmless.orderly_append rest⟩, rolls.started⟩
  | refused fault s t r code rolls hidden =>
      have quiet := rolls.quiet
      have notWriting := rolls.writing.trans idle
      have only (device : Device) : lifecycle device (t ++ [r.opening code, .writerRelease]) =
          lifecycle device [r.opening code, .writerRelease] := by
        rw [lifecycle_append, quiet.lifecycle, List.nil_append]
      refine ⟨⟨.refused notWriting hidden r code ?_ ?_, ?_, ?_, ?_, ?_⟩, rolls.started⟩
      · exact only .writer
      · rw [endings_append, quiet.endings]
        rfl
      · exact only .camera
      · exact only .window
      · intro shown
        rw [shows_append, Bool.or_eq_true] at shown
        rcases shown with shown | never
        · exact rolls.showing (Or.inr shown)
        · cases never
      · intro u rest within
        rw [List.append_assoc]
        refine quiet.harmless.orderly_append ?_
        exact (opening_harmless r code).orderly_append
          (orderly_writerRelease (within notWriting) (by decide) rest)
  | opened answer s t u r code before after started writing showing =>
      have only (device : Device) : lifecycle device (t ++ (r.opening code :: u)) =
          lifecycle device [r.opening code] := by
        change lifecycle device (t ++ ([r.opening code] ++ u)) = _
        rw [lifecycle_append, lifecycle_append, before.1.lifecycle, after.lifecycle,
          List.nil_append, List.append_nil]
      refine ⟨⟨.writer writing r code ?_ ?_, ?_, ?_, ?_, ?_⟩, started⟩
      · exact only .writer
      · change endings (t ++ ([r.opening code] ++ u)) = _
        rw [endings_append, endings_append, before.1.endings, after.endings]
        rfl
      · exact only .camera
      · exact only .window
      · intro shown
        rw [shows_append, before.2, Bool.false_or] at shown
        exact showing shown
      · intro v rest _
        rw [List.append_assoc]
        refine before.1.harmless.orderly_append ?_
        exact ((opening_harmless r code).append after.harmless).orderly_append rest

/-- If a frame was shown by the time that all is released, a window was on the screen before. -/
theorem Releases.shown {s : Stage} {t₁ t₂ t₃ summing : List Event}
    (releases : Releases s t₁ t₂ t₃) (logs : Within [.journal] summing)
    (shown : shows (t₁ ++ (t₂ ++ t₃) ++ summing) = true) : s.isShowing = true := by
  have window := releases.window
  have writer : Within [.writer, .journal] t₂ :=
    releases.writer.within (by simp [Event.device]) (by decide)
  have camera : Within [.camera, .journal] t₃ :=
    releases.camera.within (by simp [Event.device]) (by decide)
  generalize s.isShowing = showing at window ⊢
  cases window with
  | used u within quiet => rfl
  | unused =>
      rw [List.nil_append, shows_append, shows_append, shows_within writer (by decide),
        shows_within camera (by decide), shows_within logs (by decide)] at shown
      cases shown

section

variable {s : Stage} {filming t₁ t₂ t₃ summing : List Event} (leaving : Leaving s filming)
  (releases : Releases s t₁ t₂ t₃) (logs : Within [.journal] summing)

include leaving releases logs

theorem Leaving.window_destroyed :
    lifecycle .window (filming ++ (t₁ ++ (t₂ ++ t₃) ++ summing)) =
      if s.isShowing then [.destroyWindow s.title] else [] := by
  rw [lifecycle_append, leaving.window, releases.lifecycle logs]
  cases s.isShowing <;> cases s.isWriting <;> cases s.grabber.isStarted <;> rfl

theorem Leaving.was_shown (shown : shows (filming ++ (t₁ ++ (t₂ ++ t₃) ++ summing)) = true) :
    s.isShowing = true := by
  rw [shows_append] at shown
  rcases Bool.or_eq_true_iff.mp shown with byBody | byRelease
  · exact leaving.shown byBody
  · exact releases.shown logs byRelease

variable (started : s.grabber.isStarted = true)

include started

theorem Leaving.camera_released :
    lifecycle .camera (filming ++ (t₁ ++ (t₂ ++ t₃) ++ summing)) = [.captureRelease] := by
  rw [lifecycle_append, leaving.camera, releases.lifecycle logs, started]
  cases s.isShowing <;> cases s.isWriting <;> rfl

theorem Leaving.writer_released :
    lifecycle .writer (filming ++ (t₁ ++ (t₂ ++ t₃) ++ summing)) = [] ∨
      ∃ (r : Recorder) (code : Int),
        lifecycle .writer (filming ++ (t₁ ++ (t₂ ++ t₃) ++ summing)) =
          [r.opening code, .writerRelease] := by
  rw [lifecycle_append, releases.lifecycle logs, started]
  cases leaving.leaves with
  | nothing idle unopened ended =>
      left
      rw [idle, unopened]
      cases s.isShowing <;> rfl
  | refused idle hidden r code one ended =>
      right
      refine ⟨r, code, ?_⟩
      rw [idle, hidden, one]
      rfl
  | writer writing r code one ended =>
      right
      refine ⟨r, code, ?_⟩
      rw [writing, one]
      cases s.isShowing <;> rfl

theorem Leaving.endings_sublist :
    (endings (filming ++ (t₁ ++ (t₂ ++ t₃) ++ summing))).Sublist [.window, .writer, .camera] := by
  rw [endings_append, releases.endings logs, started]
  cases leaving.leaves with
  | nothing idle unopened ended =>
      rw [idle, ended]
      exact order_sublist s.isShowing false
  | refused idle hidden r code one ended =>
      rw [idle, hidden, ended]
      exact order_sublist false true
  | writer writing r code one ended =>
      rw [writing, ended]
      exact order_sublist s.isShowing true

end

/-- What comes before the body of a run opens the camera and does nothing else to any device. -/
theorem lifecycle_begun {loading starting : List Event} (loads : Quiet loading)
    (starts : Quiet starting) (source : Source) (device : Device) (rest : List Event) :
    lifecycle device (loading ++ ([.captureOpen source] ++ (starting ++ rest))) =
      lifecycle device [.captureOpen source] ++ lifecycle device rest := by
  rw [lifecycle_append, lifecycle_append, lifecycle_append, loads.lifecycle, starts.lifecycle,
    List.nil_append, List.nil_append]

theorem captureOpen_harmless (source : Source) : Harmless [.captureOpen source] := by
  intro e member later
  rw [List.mem_singleton.mp member]
  exact trivial

theorem run_ended {config : Config} {model : Option String} {preview : Option Preview}
    {demo : Demo} (made : Demo.make config model preview = .ok demo) (w : World) :
    Ended demo (attempt demo (demo.stage w)) (run (demo, w)) := by
  have idle : demo.grabber.isStarted = false := by
    rw [Grabber.isStarted, (make_grabber made).1]
    rfl
  have outcome := run_outcome demo w
  rcases ran : run (demo, w) with ⟨answer, ⟨demo', w'⟩, t⟩
  rw [ran] at outcome
  cases outcome with
  | unloaded fault w₁ loading fetches attempted =>
      rw [attempted]
      have quiet := fetches.quiet
      refine ⟨rfl, Or.inl (quiet.lifecycle _), Or.inl (quiet.lifecycle _), quiet.lifecycle _,
        ?_, ?_, quiet.orderly, idle⟩
      · intro shown
        rw [shows_within fetches.within (by decide)] at shown
        cases shown
      · rw [quiet.endings]
        exact List.nil_sublist _
  | refused w₁ loading fetches attempted =>
      rw [attempted]
      have quiet := fetches.quiet
      have only (device : Device) :=
        lifecycle_begun quiet Quiet.nil demo.grabber.source device [.captureRelease]
      refine ⟨rfl, Or.inr (only _), Or.inl (only _), only _, ?_, ?_, ?_, idle⟩
      · intro shown
        rw [shows_append, shows_within fetches.within (by decide)] at shown
        cases shown
      · rw [endings_append, quiet.endings]
        exact order_sublist false false
      · exact quiet.harmless.orderly_append
          ((captureOpen_harmless _).orderly_append (orderly_captureRelease Within.nil))
  | ended w₁ w₂ w₃ w₄ s answer loading starting filming t₁ t₂ t₃ summing responses fetches opens
      scripts within quiet unread filmed attempted releases logs =>
      rw [attempted]
      have bodyFilmed : Filmed (demo.opened (Grabber.nextCapture w).reads w₂)
          (body demo (demo.opened (Grabber.nextCapture w).reads w₂)) := body_filmed rfl rfl
      rw [filmed] at bodyFilmed
      obtain ⟨leaving, started⟩ := filmed_leaving bodyFilmed rfl
      have isStarted : s.grabber.isStarted = true := started
      have parts : loading ++ (.captureOpen demo.grabber.source :: starting ++
          (filming ++ (t₁ ++ (t₂ ++ t₃)) ++ summing)) =
          loading ++ ([.captureOpen demo.grabber.source] ++ (starting ++
            (filming ++ (t₁ ++ (t₂ ++ t₃) ++ summing)))) := by
        simp only [List.append_assoc, List.cons_append, List.nil_append]
      have only (device : Device) := lifecycle_begun fetches.quiet quiet demo.grabber.source
        device (filming ++ (t₁ ++ (t₂ ++ t₃) ++ summing))
      rw [parts]
      refine ⟨rfl, Or.inr ?_, ?_, ?_, fun shown => ?_, ?_, ?_, rfl⟩
      · rw [only, leaving.camera_released releases logs.within isStarted]
        rfl
      · rw [only]
        exact leaving.writer_released releases logs.within isStarted
      · rw [only]
        exact leaving.window_destroyed releases logs.within
      · have before : shows [.captureOpen demo.grabber.source] = false := rfl
        rw [shows_append, shows_within fetches.within (by decide), shows_append, before,
          shows_append, shows_within within (by decide), Bool.false_or, Bool.false_or,
          Bool.false_or] at shown
        exact leaving.was_shown releases logs.within shown
      · rw [endings_append, endings_append, endings_append, fetches.quiet.endings, quiet.endings]
        exact leaving.endings_sublist releases logs.within isStarted
      · refine fetches.quiet.harmless.orderly_append
          ((captureOpen_harmless _).orderly_append ?_)
        refine quiet.harmless.orderly_append (leaving.orderly _ ?_ ?_)
        · exact releases.orderly logs.within isStarted
        · exact releases.within logs.within

theorem run_ended_short :
    Demo.make shortConfig (some "m.xml") none = .ok shortDemo ∧
      Ended shortDemo (attempt shortDemo (shortDemo.stage (blackWorld 4)))
        (run (shortDemo, blackWorld 4)) := by
  have made : Demo.make shortConfig (some "m.xml") none = .ok shortDemo := rfl
  exact ⟨made, run_ended made _⟩

end HatReel.Reel
