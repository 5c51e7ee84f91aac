import HatReel.Proofs.Reel.Ending
import HatReel.Proofs.Reel.Permits
import HatReel.Proofs.Reel.Resized

/-! How a run begins that has loaded its model.

It either gives up before a frame has come, and has changed no file then, or it has read the first
frame and goes on to record. From there on it fails in other ways. -/

namespace HatReel.Rig

def Event.isRead : Event → Bool
  | .captureRead _ => true
  | _ => false

def Unread (t : List Event) : Prop := ∀ e ∈ t, e.isRead = false

theorem unread_joins {σ : Type} : Act.Joins fun (_ : σ) t (_ : σ) => Unread t where
  nothing _ := by simp [Unread]
  join first second e member := (List.mem_append.mp member).elim (first e) (second e)

theorem Within.unread {devices : List Device} {t : List Event} (within : Within devices t)
    (other : .camera ∉ devices) : Unread t := by
  intro e member
  cases e with
  | captureRead ok => exact absurd (within _ member) other
  | _ => rfl

theorem Unread.goodReads {t : List Event} (unread : Unread t) : goodReads t = 0 := by
  rw [Rig.goodReads, List.countP_eq_zero]
  intro e member good
  have silent := unread e member
  cases e with
  | captureRead ok => cases silent
  | _ => cases good

theorem unread_emit {σ : Type} {e : Event} (silent : e.isRead = false) :
    Act.Obeys (fun (_ : σ) t _ => Unread t) (.emit e) := by
  intro s f member
  rw [List.mem_singleton.mp member]
  exact silent

end HatReel.Rig

namespace HatReel.Camera.Grabber

open HatReel.Log HatReel.Rig

theorem unread_setProperty (property : CaptureProperty) (n : Option Int) :
    Act.Obeys (fun _ t _ => Unread t) (setProperty property n) := by
  cases n with
  | none => exact Act.obeys_pure unread_joins ()
  | some n =>
      by_cases zero : n = 0
      · simp only [setProperty, if_pos zero]
        exact Act.obeys_pure unread_joins ()
      · simp only [setProperty, if_neg zero]
        exact unread_emit (e := .captureSet property n) rfl

theorem unread_start : Act.Obeys (fun _ t _ => Unread t) start := by
  have below {x : Act World Unit} (unread : Act.Obeys (fun _ t _ => Unread t) x) :
      Act.Obeys (fun (_ : Grabber × World) t _ => Unread t) (.below x) :=
    Act.obeys_on unread fun _ _ _ unread => unread
  have logs (message : String) : Act.Obeys (fun _ t _ => Unread t) (log .info loggerName message) :=
    Act.obeys_mono (log_logs _ _ _) fun _ _ _ logs => logs.within.unread (by decide)
  apply Act.obeys_bind unread_joins (Act.obeys_get unread_joins)
  rintro ⟨g, w⟩
  apply Act.obeys_bind unread_joins
  · refine Act.obeys_on (Q := fun _ t _ => Unread t) ?_ fun _ _ _ unread => unread
    apply Act.obeys_bind unread_joins (unread_emit rfl)
    intro _ w
    exact unread_joins.nothing w
  intro script
  have opened : Act.Obeys (fun (_ : Grabber × World) t _ => Unread t) (do
      .below (setProperty .width g.width)
      .below (setProperty .height g.height)
      hold (some ⟨script.reads⟩)
      .below (log .info loggerName s!"[Grabber] Opened source {g.source.quoted}")) := by
    apply Act.obeys_bind unread_joins (below (unread_setProperty _ _))
    intro _
    apply Act.obeys_bind unread_joins (below (unread_setProperty _ _))
    intro _
    apply Act.obeys_bind unread_joins fun s => unread_joins.nothing s
    intro _
    exact below (logs _)
  dsimp only
  split
  · apply Act.obeys_bind unread_joins (unread_emit rfl)
    intro _
    exact Act.obeys_bind unread_joins (Act.obeys_fail unread_joins _) fun _ => opened
  · exact opened

end HatReel.Camera.Grabber

namespace HatReel.Reel

open HatReel.Camera HatReel.Files HatReel.Image HatReel.Log HatReel.Model HatReel.Rig

/-- A leave to end with faults that are not due to the model or the frames, and to change some
keys. -/
def lateLeave (keys : List Key) : Leave where
  fails fault := fault.isOfInput = false
  sees := keys
  changes := keys
  files _ := rfl
  inside _ inside := inside

/-- A grabber that is started stays so, and a fault is not due to the model or the frames. -/
abbrev StaysLate {α : Type} (x : Act Stage α) : Prop :=
  Act.Stays (fun s => s.grabber.isStarted = true) (fun fault => fault.isOfInput = false) x

section

variable {α : Type} (keys : List Key)

theorem late_onWorld {x : Act World α} (permits : (lateLeave keys).Permits x) :
    StaysLate (Stage.onWorld x) := by
  intro s started
  exact ⟨started, fun fault failed => permits.fails failed⟩

theorem late_onPreview (default : α) {x : Act (Preview × World) α}
    (permits : (lateLeave keys).PermitsUse x) : StaysLate (Stage.onPreview default x) := by
  intro s started
  cases held : s.preview with
  | none =>
      rw [Stage.onPreview_none default held]
      exact ⟨started, fun _ never => nomatch never⟩
  | some p =>
      rcases step : x (p, s.world) with ⟨answer, ⟨p', w⟩, t⟩
      rw [Stage.onPreview_run default held step]
      refine ⟨started, fun fault failed => permits.fails (p := (p, s.world)) ?_⟩
      rw [step]
      exact failed

theorem late_onRecorder (default : α) {x : Act (Recorder × World) α}
    (fails : ∀ r ws fault, (x (r, ws)).answer = .error fault → fault.isOfInput = false) :
    StaysLate (Stage.onRecorder default x) := by
  intro s started
  cases held : s.recorder with
  | none =>
      rw [Stage.onRecorder_none default held]
      exact ⟨started, fun _ never => nomatch never⟩
  | some r =>
      rcases step : x (r, s.world) with ⟨answer, ⟨r', w⟩, t⟩
      rw [Stage.onRecorder_run default held step]
      refine ⟨started, fun fault failed => fails r s.world fault ?_⟩
      rw [step]
      exact failed

end

theorem late_grab : StaysLate (Stage.onGrabber Grabber.grab) := by
  intro s started
  obtain ⟨⟨reads⟩, held⟩ := Option.isSome_iff_exists.mp started
  rw [Stage.onGrabber_run (Grabber.grab_held held)]
  exact ⟨rfl, fun _ never => nomatch never⟩

theorem late_filmStep {config : Config} {α : Type} {x : Act Stage α} (step : FilmStep config α x) :
    StaysLate x := by
  have late (fault : Fault) (notInput : fault.isOfInput = false) : (lateLeave []).fails fault :=
    notInput
  cases step with
  | log message => exact late_onWorld [] (Leave.permits_log _ _ _ (by decide))
  | clock => exact late_onWorld [] permits_readClock
  | draw size => exact late_onWorld [] (permits_drawRotation late config size)
  | turn rotation => exact fun s started => ⟨started, fun _ never => nomatch never⟩
  | process rotation frame => exact late_onWorld [] (permits_process late config rotation frame)
  | grab => exact late_grab
  | isVisible => exact late_onPreview [] true permits_isVisible
  | present frame => exact late_onPreview [] () (permits_present frame)
  | record frame =>
      exact late_onRecorder () fun r w fault failed => (permits_record late frame).fails failed

theorem makePreview_late {demo : Demo} {fault : Fault} (failed : makePreview demo = .error fault) :
    fault.isOfInput = false := by
  unfold makePreview at failed
  split at failed
  · cases failed
  · unfold Preview.make at failed
    dsimp only at failed
    split at failed
    · cases failed
    · split at failed
      · cases failed
      · cases failed
        rfl

/-- Once the first frame has been read, a fault is not due to the model or the frames. -/
theorem late_recording (demo : Demo) (frame : Frame) : StaysLate (recording demo frame) := by
  apply Act.stays_bind (late_onWorld [] (Leave.permits_log _ _ _ (by decide)))
  intro _
  apply Act.stays_bind fun s started => ⟨started, fun _ never => nomatch never⟩
  intro _
  apply Act.stays_bind
  · apply late_onRecorder
    intro r w fault failed
    have permits : (lateLeave r.path.parent.trail).PermitsUse r.begin :=
      permits_begin (fun _ notInput => notInput) fun _ inside => inside
    exact permits.fails failed
  intro _
  apply Act.stays_bind
  · cases made : makePreview demo with
    | ok p => exact Act.stays_pure p
    | error fault => exact Act.stays_fail (makePreview_late made)
  intro p
  apply Act.stays_bind fun s started => ⟨started, fun _ never => nomatch never⟩
  intro _
  exact (built_filming demo frame).stays fun _ _ step => late_filmStep step

def glance : Act Stage Stats := do
  let _ ← Stage.onGrabber Grabber.grab
  .fail .noFrames

theorem spares_glance {s : Stage} : Spares [] s.world (performing glance s).state.world := by
  let l : Leave := .free [] [] fun _ inside => inside
  have permits : l.PermitsStage (performing glance) := by
    refine permits_performing ?_ fun _ => trivial
    apply Act.Built.bind (.basic (.onGrabber (permits_grab trivial)))
    intro _
    exact .basic (.fail _ trivial)
  exact permits.spares s

/-- What is performed depends on what the body does on the stage on which it begins. -/
theorem performing_same {x y : Act Stage Stats} {s ready : Stage} {t : List Event}
    (started : Stage.onGrabber Grabber.start s = ⟨.ok (), ready, t⟩) (same : x ready = y ready) :
    performing x s = performing y s := by
  have ensured : Act.ensuring x release ready = Act.ensuring y release ready := by
    unfold Act.ensuring
    rw [same]
  unfold performing
  rw [Act.bind_of_ok _ started, Act.bind_of_ok _ started]
  rcases after : Act.ensuring y release ready with ⟨fault | stats, last, u⟩ <;>
    rw [after] at ensured
  · rw [Act.bind_of_error _ ensured, Act.bind_of_error _ after]
  · rw [Act.bind_of_ok _ ensured, Act.bind_of_ok _ after]

theorem LetsGo.fits {ending : Event} {devices : List Device} {opened : Bool} {t : List Event}
    (lets : LetsGo ending devices opened t) (width height : Int) (own : ending.Fits width height)
    (other : .writer ∉ devices) : ∀ e ∈ t, e.Fits width height := by
  cases lets with
  | unused => simp
  | used u within quiet =>
      intro e member
      rcases List.mem_cons.mp member with rfl | inside
      · exact own
      · exact fits_within within other width height e inside

/-- No frame is written when all devices are let go. -/
theorem Releases.fits {s : Stage} {t₁ t₂ t₃ : List Event} (releases : Releases s t₁ t₂ t₃)
    (width height : Int) : ∀ e ∈ t₁ ++ (t₂ ++ t₃), e.Fits width height := by
  intro e member
  rcases List.mem_append.mp member with window | later
  · exact releases.window.fits width height trivial (by decide) e window
  · rcases List.mem_append.mp later with writer | camera
    · exact releases.writer.fits width height trivial (by decide) e writer
    · exact releases.camera.fits width height trivial (by decide) e camera

/-- How a run goes on once its model is loaded: no frame comes, and no file is changed, or the first
frame has come, and still no file is changed, and the run records. -/
inductive Begun (demo : Demo) (w : World) : Ran Stage Stats → Prop where
  | barren (fault : Fault) (s : Stage) (t : List Event) (input : fault.isOfInput = true)
      (within : Within [.camera, .window, .journal] t) (unread : goodReads t = 0)
      (spares : Spares [] w s.world) : Begun demo w ⟨.error fault, s, t⟩
  | recorded (first : Frame) (left : List (Option Frame)) (ready s s' : Stage)
      (answer : Except Fault Stats) (starting filming ending : List Event)
      (comes : (Grabber.nextCapture w).reads = some first :: left)
      (unread : Unread starting) (within : Within [.camera, .journal] starting)
      (holding : ready.grabber.capture = some ⟨left⟩) (bare : ready.recorder = none)
      (scripts : ready.world.scripts = (Grabber.captureTaken w).scripts)
      (spares : Spares [] w ready.world)
      (ran : recording demo first ready = ⟨answer, s, filming⟩)
      (fits : ∀ width height, ∀ e ∈ ending, e.Fits width height) (idle : goodReads ending = 0) :
      Begun demo w ⟨answer, s', .captureOpen demo.grabber.source ::
        (starting ++ (.captureRead true :: (filming ++ ending)))⟩

theorem perform_barren {demo : Demo} {w : World} (opens : (Grabber.nextCapture w).opens = true)
    (empty : (next none (Grabber.nextCapture w).reads).1 = none) :
    Begun demo w (perform demo (demo.stage w)) := by
  obtain ⟨w₁, starting, started, -, within, -, unread⟩ :=
    Grabber.start_opened (g := demo.grabber) opens
  have begun := Stage.onGrabber_run (s := demo.stage w) started
  have grabbed := Stage.onGrabber_run (s := demo.opened (Grabber.nextCapture w).reads w₁)
    (Grabber.grab_held (w := w₁) rfl)
  rw [empty] at grabbed
  have gives : body demo (demo.opened (Grabber.nextCapture w).reads w₁) = _ :=
    Act.bind_run grabbed (Act.fail_run .noFrames _) rfl
  have glances : glance (demo.opened (Grabber.nextCapture w).reads w₁) = _ :=
    Act.bind_run grabbed (Act.fail_run .noFrames _) rfl
  obtain ⟨w₂, t₁, t₂, t₃, released, releases⟩ := release_run { demo.stage w₁ with
    grabber := { demo.grabber with capture := some ⟨(next none (Grabber.nextCapture w).reads).2⟩ } }
  obtain ⟨w₃, summing, logs, performed⟩ := perform_opened started gives released
  have spares := spares_glance (s := demo.stage w)
  rw [← performing_same begun (gives.trans glances.symm), ← perform_eq, performed] at spares
  rw [performed]
  refine .barren _ _ _ rfl ?_ ?_ spares
  · apply Within.cons (by simp [Event.device])
    apply (within.mono (by decide)).append
    rw [List.append_assoc]
    apply Within.cons (by simp [Event.device])
    exact (releases.within logs.within rfl).mono (by decide)
  · have opened : goodReads (.captureOpen demo.grabber.source :: starting) = goodReads starting :=
      rfl
    rw [goodReads_append, goodReads_append, goodReads_append, opened, unread, releases.idle.unread,
      logs.unread]
    rfl

theorem perform_begun (demo : Demo) (w : World) : Begun demo w (perform demo (demo.stage w)) := by
  cases opens : (Grabber.nextCapture w).opens with
  | false =>
      rw [perform_refused opens]
      refine .barren _ _ _ rfl ?_ rfl (Spares.of_same (fun _ _ => rfl) rfl)
      exact Within.cons (by simp [Event.device]) (Within.single (by simp [Event.device]))
  | true =>
      rcases comes : (Grabber.nextCapture w).reads with _ | ⟨_ | first, left⟩
      · exact perform_barren opens (by rw [comes]; rfl)
      · exact perform_barren opens (by rw [comes]; rfl)
      · obtain ⟨w₁, starting, started, scripts, within, -, -⟩ :=
          Grabber.start_opened (g := demo.grabber) opens
        have silent := Grabber.unread_start (demo.grabber, w)
        have spares := (permits_startGrabber (l := .free [] [] fun _ inside => inside)
          fun _ => trivial).spares (demo.grabber, w)
        rw [started] at silent spares
        rw [comes] at started
        let ready : Stage :=
          { demo.stage w₁ with grabber := { demo.grabber with capture := some ⟨left⟩ } }
        have grabbed := Stage.onGrabber_run (s := demo.opened (some first :: left) w₁)
          (Grabber.grab_held (w := w₁) rfl)
        rcases recorded : recording demo first ready with ⟨answer, s, filming⟩
        have filmed : body demo (demo.opened (some first :: left) w₁) =
            ⟨answer, s, [.captureRead true] ++ filming⟩ := Act.bind_run grabbed recorded rfl
        obtain ⟨w₂, t₁, t₂, t₃, released, releases⟩ := release_run s
        obtain ⟨w₃, summing, logs, performed⟩ := perform_opened started filmed released
        have parts : .captureOpen demo.grabber.source :: starting ++
            ((([.captureRead true] ++ filming) ++ (t₁ ++ (t₂ ++ t₃))) ++ summing) =
            .captureOpen demo.grabber.source :: (starting ++
              (.captureRead true :: (filming ++ ((t₁ ++ (t₂ ++ t₃)) ++ summing)))) := by
          simp only [List.append_assoc, List.cons_append, List.nil_append]
        rw [performed, parts]
        refine .recorded first left ready s _ answer starting filming _ comes
          (fun e member => silent e (List.mem_cons_of_mem _ member)) within rfl rfl scripts spares
          recorded ?_ ?_
        · intro width height e member
          rcases List.mem_append.mp member with releasing | summed
          · exact releases.fits width height e releasing
          · exact fits_within logs.within (by decide) width height e summed
        · rw [goodReads_append, releases.idle.unread, logs.unread]

end HatReel.Reel
