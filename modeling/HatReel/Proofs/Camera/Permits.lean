import HatReel.Camera.Grabber
import HatReel.Camera.Preview
import HatReel.Camera.Recorder
import HatReel.Proofs.Rig.Spares

/-! What the uses of a grabber, a recorder and a preview have leave to do.

A use is built from steps of the world below the device and from changes of the device itself. Only
the start of a recorder changes files: it makes the directories above its video. -/

namespace HatReel.Rig

def Fault.isOfInput : Fault → Bool
  | .noSource _ | .grabberIdle | .noFrames | .modelMissing _ | .modelUnreadable .. | .modelEmpty _
  | .download .. => true
  | _ => false

namespace Leave

variable {δ α : Type}

inductive Use (l : Leave) (δ : Type) : (α : Type) → Act (δ × World) α → Prop where
  | below {α : Type} {x : Act World α} (permits : l.Permits x) : Use l δ α (.below x)
  | change (f : δ → δ) : Use l δ Unit (.modify fun p => (f p.1, p.2))
  | emit (e : Event) (loud : e.device ≠ .journal) : Use l δ Unit (.emit e)
  | fail {α : Type} (fault : Fault) (allowed : l.fails fault) : Use l δ α (.fail fault)

def useView (p : δ × World) : δ × Scripts := (p.1, p.2.scripts)

/-- Built from basic steps of a use within a leave. -/
abbrev PermitsUse (l : Leave) (x : Act (δ × World) α) : Prop := Act.Built useView (l.Use δ) x

variable {l : Leave}

theorem permits_below {x : Act World α} (permits : l.Permits x) :
    l.PermitsUse (.below x : Act (δ × World) α) := .basic (.below permits)

theorem permitsUse_log (level : Log.Level) (logger message : String) (calm : level ≠ .error) :
    l.PermitsUse (.below (log level logger message) : Act (δ × World) Unit) :=
  permits_below (permits_log level logger message calm)

theorem permitsUse_emit (e : Event) (loud : e.device ≠ .journal) :
    l.PermitsUse (.emit e : Act (δ × World) Unit) := .basic (.emit e loud)

theorem permitsUse_fail {fault : Fault} (allowed : l.fails fault) :
    l.PermitsUse (.fail fault : Act (δ × World) α) := .basic (.fail fault allowed)

theorem permitsUse_check {c : Prop} [Decidable c] {fault : Fault} {x : Act (δ × World) α}
    (allowed : l.fails fault) (rest : l.PermitsUse x) :
    l.PermitsUse (if c then (.fail fault : Act (δ × World) PUnit) >>= fun _ => x else x) := by
  split
  · exact .bind (permitsUse_fail allowed) fun _ => rest
  · exact rest

/-- The same where a device is told of the failure. -/
theorem permitsUse_giveUp {c : Prop} [Decidable c] {fault : Fault} {x : Act (δ × World) α}
    (e : Event) (loud : e.device ≠ .journal) (allowed : l.fails fault)
    (rest : l.PermitsUse x) :
    l.PermitsUse
      (if c then .emit e >>= fun _ => (.fail fault : Act (δ × World) PUnit) >>= fun _ => x
        else x) := by
  split
  · apply Act.Built.bind (permitsUse_emit e loud)
    intro _
    exact .bind (permitsUse_fail allowed) fun _ => rest
  · exact rest

/-- A look at a device together with the world: what follows depends on the device. -/
theorem permitsUse_device {f : δ × World → Act (δ × World) α}
    (depends : ∀ device w v, f (device, w) = f (device, v))
    (rest : ∀ device w, l.PermitsUse (f (device, w))) : l.PermitsUse (Act.get >>= f) := by
  apply Act.Built.look
  · rintro ⟨device, w⟩ ⟨other, v⟩ same
    cases (Prod.mk.inj same).1
    exact depends device w v
  · rintro ⟨device, w⟩
    exact rest device w

/-- What all basic steps of the world keep, a use keeps in the world below the device. -/
theorem PermitsUse.obeys {R : World → List Event → World → Prop} {x : Act (δ × World) α}
    (permits : l.PermitsUse x) (joins : Act.Joins R)
    (each : ∀ (β : Type) (y : Act World β), l.Basic β y → Act.Obeys R y) :
    Act.Obeys (fun p t p' => R p.2 t p'.2) x := by
  have joinsBelow : Act.Joins fun (p : δ × World) t p' => R p.2 t p'.2 :=
    ⟨fun p => joins.nothing p.2, fun first second => joins.join first second⟩
  refine Act.Built.obeys permits joinsBelow fun β y is => ?_
  cases is with
  | below inner => exact Act.obeys_on (inner.obeys joins each) fun _ _ _ related => related
  | change f => exact fun p => joins.nothing p.2
  | emit e loud => exact fun p => each Unit _ (.fetch (.emit e loud)) p.2
  | fail fault allowed => exact fun p => joins.nothing p.2

/-- A relation between worlds that all basic steps respect, a use respects above them. -/
theorem PermitsUse.agrees {watch : Event → Bool} {R : World → World → Prop}
    {x : Act (δ × World) α} (permits : l.PermitsUse x)
    (same : ∀ w v, R w v → w.scripts = v.scripts)
    (each : ∀ (β : Type) (y : Act World β), l.Basic β y → Act.Matches watch R y y) :
    Act.Matches watch (Act.SameObject R) x x := by
  have view (p q : δ × World) (related : Act.SameObject R p q) : useView p = useView q :=
    Prod.ext related.1 (same _ _ related.2)
  refine Act.Built.agrees permits view fun β y is => ?_
  cases is with
  | below inner =>
      exact Act.matches_on (inner.agrees same each) (fun _ _ related => related.2)
        fun _ _ _ _ related after => ⟨related.1, after⟩
  | change f => exact Act.matches_modify fun _ _ related => ⟨congrArg f related.1, related.2⟩
  | emit e loud => exact fun _ _ related => ⟨rfl, related, rfl⟩
  | fail fault allowed => exact Act.matches_fail fault

theorem PermitsUse.spares {x : Act (δ × World) α} (permits : l.PermitsUse x) :
    Act.Obeys (fun p _ p' => Spares l.changes p.2 p'.2) x :=
  permits.obeys (spares_joins l.changes) fun _ _ is => is.spares

theorem PermitsUse.fails {x : Act (δ × World) α} (permits : l.PermitsUse x) {p : δ × World}
    {fault : Fault} (failed : (x p).answer = .error fault) : l.fails fault := by
  have stays : Act.Stays (fun _ => True) l.fails x := by
    refine Act.Built.stays permits fun β y is => ?_
    cases is with
    | below inner => exact fun p _ => ⟨trivial, fun fault failed => inner.fails failed⟩
    | change f => exact fun _ _ => ⟨trivial, fun _ never => nomatch never⟩
    | emit e loud => exact fun _ _ => ⟨trivial, fun _ never => nomatch never⟩
    | fail fault allowed => exact Act.stays_fail allowed
  exact (stays p trivial).2 fault failed

end Leave

end HatReel.Rig

namespace HatReel.Camera

open HatReel.Image HatReel.Log HatReel.Rig

variable {l : Leave}

theorem permits_openCapture (source : Source) : l.Permits (Grabber.openCapture source) := by
  apply Act.Built.bind (Leave.permits_emit (.captureOpen source) nofun)
  intro _
  exact .basic (.take fun scripts =>
    ((next ⟨false, []⟩ scripts.captures).1,
      { scripts with captures := (next ⟨false, []⟩ scripts.captures).2 }))

theorem permits_setProperty (property : CaptureProperty) (n : Option Int) :
    l.Permits (Grabber.setProperty property n) := by
  cases n with
  | none => exact .pure ()
  | some n =>
      by_cases zero : n = 0
      · simp only [Grabber.setProperty, if_pos zero]
        exact .pure ()
      · simp only [Grabber.setProperty, if_neg zero]
        exact Leave.permits_emit (.captureSet property n) nofun

theorem permits_holdCapture (capture : Option Capture) : l.PermitsUse (Grabber.hold capture) :=
  .basic (.change fun g : Grabber => { g with capture := capture })

theorem permits_startGrabber (noSource : ∀ source, l.fails (.noSource source)) :
    l.PermitsUse Grabber.start := by
  apply Leave.permitsUse_device (fun _ _ _ => rfl)
  intro g w
  apply Act.Built.bind (Leave.permits_below (permits_openCapture g.source))
  intro script
  apply Leave.permitsUse_giveUp .captureRelease nofun (noSource g.source)
  apply Act.Built.bind (Leave.permits_below (permits_setProperty _ _))
  intro _
  apply Act.Built.bind (Leave.permits_below (permits_setProperty _ _))
  intro _
  apply Act.Built.bind (permits_holdCapture _)
  intro _
  exact Leave.permitsUse_log _ _ _ (by decide)

theorem permits_grab (idle : l.fails .grabberIdle) : l.PermitsUse Grabber.grab := by
  apply Leave.permitsUse_device (fun _ _ _ => rfl)
  intro g w
  cases capture : g.capture with
  | none =>
      simp only [capture]
      exact Leave.permitsUse_fail idle
  | some held =>
      simp only [capture]
      apply Act.Built.bind (permits_holdCapture _)
      intro _
      apply Act.Built.bind (Leave.permitsUse_emit (.captureRead _) nofun)
      intro _
      exact .pure _

theorem permits_stopGrabber : l.PermitsUse Grabber.stop := by
  apply Leave.permitsUse_device (fun _ _ _ => rfl)
  intro g w
  cases started : g.isStarted with
  | false =>
      simp only [started, Bool.false_eq_true, if_false]
      exact .pure ()
  | true =>
      simp only [started, if_true]
      apply Act.Built.bind (Leave.permitsUse_emit .captureRelease nofun)
      intro _
      apply Act.Built.bind (permits_holdCapture none)
      intro _
      exact Leave.permitsUse_log _ _ _ (by decide)

def Recorder.begin (r : Recorder) : Act (Recorder × World) Unit := do
  .below (ensureDirectory r.path.parent)
  let code ← Act.require (codeNumber? r.fourcc) .codeLength
  .emit (.writerOpen r.path.text code r.fps.toFloat r.width r.height)
  let script ← Act.below openWriter
  if !script.opens then
    .emit .writerRelease
    .fail (.noWriter r.path.text r.fourcc)
  hold (some ⟨script.failAt, 0⟩)
  .below (log .info loggerName
    s!"[Recorder] Started: {r.path.text} {r.width}x{r.height} @ {r.fps.text} FPS")

theorem permits_holdWriter (writer : Option Writer) : l.PermitsUse (Recorder.hold writer) :=
  .basic (.change fun r : Recorder => { r with writer := writer })

section

variable (late : ∀ fault : Fault, fault.isOfInput = false → l.fails fault)

include late

theorem permits_begin {r : Recorder} (own : ∀ key ∈ r.path.parent.trail, key ∈ l.changes) :
    l.PermitsUse r.begin := by
  apply Act.Built.bind (Leave.permits_below (.basic (.fetch (.ensure _ own))))
  intro _
  apply Act.Built.bind
  · cases Recorder.codeNumber? r.fourcc with
    | none => exact Leave.permitsUse_fail (late .codeLength rfl)
    | some code => exact .pure code
  intro code
  apply Act.Built.bind (Leave.permitsUse_emit (.writerOpen ..) nofun)
  intro _
  apply Act.Built.bind (Leave.permits_below (.basic (.take fun scripts =>
    ((next ⟨true, none⟩ scripts.writers).1,
      { scripts with writers := (next ⟨true, none⟩ scripts.writers).2 }))))
  intro script
  apply Leave.permitsUse_giveUp .writerRelease nofun (late (.noWriter _ _) rfl)
  apply Act.Built.bind (permits_holdWriter _)
  intro _
  exact Leave.permitsUse_log _ _ _ (by decide)

theorem permits_record (frame : Frame) : l.PermitsUse (Recorder.record frame) := by
  apply Leave.permitsUse_device (fun _ _ _ => rfl)
  intro r w
  cases held : r.writer with
  | none =>
      simp only [held]
      exact Leave.permitsUse_fail (late .recorderIdle rfl)
  | some writer =>
      simp only [held]
      apply Leave.permitsUse_check (late (.frameSize ..) rfl)
      apply Leave.permitsUse_giveUp .writerFail nofun (late .codec rfl)
      apply Act.Built.bind (Leave.permitsUse_emit (.writerWrite frame) nofun)
      intro _
      exact .basic (.change fun r : Recorder => { r with
        written := r.written + 1, writer := some { writer with count := writer.count + 1 } })

end

theorem permits_stopRecorder : l.PermitsUse Recorder.stop := by
  apply Leave.permitsUse_device (fun _ _ _ => rfl)
  intro r w
  cases writing : r.writer.isSome with
  | false =>
      simp only [writing, Bool.false_eq_true, if_false]
      exact .pure ()
  | true =>
      simp only [writing, if_true]
      apply Act.Built.bind (Leave.permitsUse_emit .writerRelease nofun)
      intro _
      apply Act.Built.bind (permits_holdWriter none)
      intro _
      exact Leave.permitsUse_log _ _ _ (by decide)

theorem permits_waitKey : l.Permits Preview.waitKey := by
  apply Act.Built.look
  · intro w v same
    simp only [same]
  · intro w
    apply Act.Built.bind (.basic (.take fun scripts =>
      ((), { scripts with keys := (next (-1) w.scripts.keys).2 })))
    intro _
    apply Act.Built.bind (Leave.permits_emit (.waitKey 1 _) nofun)
    intro _
    exact .pure _

theorem permits_askWindow (title : String) : l.Permits (Preview.askWindow title) := by
  apply Act.Built.bind (Leave.permits_emit (.windowVisible title) nofun)
  intro _
  exact .basic (.take fun scripts =>
    ((next 1.0 scripts.visible).1, { scripts with visible := (next 1.0 scripts.visible).2 }))

theorem permits_change (f : Preview → Preview) : l.PermitsUse (Preview.change f) :=
  .basic (.change f)

theorem permits_present (frame : Frame) : l.PermitsUse (Preview.present frame) := by
  apply Leave.permitsUse_device (fun _ _ _ => rfl)
  intro p w
  cases enabled : p.enabled with
  | false =>
      simp only [enabled, Bool.false_eq_true, if_false]
      exact .pure ()
  | true =>
      simp only [enabled, if_true]
      apply Act.Built.bind (Leave.permitsUse_emit (.showWindow p.title _) nofun)
      intro _
      apply Act.Built.bind (permits_change _)
      intro _
      apply Act.Built.bind (Leave.permits_below permits_waitKey)
      intro key
      split
      · apply Act.Built.bind (Leave.permitsUse_log _ _ _ (by decide))
        intro _
        exact permits_change _
      · exact .pure ()

theorem permits_isVisible : l.PermitsUse Preview.isVisible := by
  apply Leave.permitsUse_device (fun _ _ _ => rfl)
  intro p w
  dsimp only
  split
  · exact .pure true
  split
  · exact .pure false
  split
  · exact .pure true
  apply Act.Built.bind (Leave.permits_below (permits_askWindow p.title))
  intro answer
  split
  · apply Act.Built.bind (Leave.permitsUse_log _ _ _ (by decide))
    intro _
    apply Act.Built.bind (permits_change _)
    intro _
    exact .pure false
  · exact .pure true

theorem permits_dispose : l.PermitsUse Preview.dispose := by
  apply Act.Built.look
  · rintro ⟨p, w⟩ ⟨p', w'⟩ same
    obtain ⟨rfl, scripts⟩ := Prod.mk.inj same
    have answers : w.scripts = w'.scripts := scripts
    simp only [answers]
  · rintro ⟨p, w⟩
    cases showing : p.enabled && p.shown with
    | false =>
        simp only [showing, Bool.false_eq_true, if_false]
        exact permits_change _
    | true =>
        simp only [showing, if_true]
        apply Act.Built.bind (Leave.permitsUse_emit (.destroyWindow p.title) nofun)
        intro _
        cases w.scripts.destroyError with
        | some reason =>
            apply Act.Built.bind (Leave.permitsUse_log _ _ _ (by decide))
            intro _
            exact permits_change _
        | none =>
            apply Act.Built.bind
            · exact .bind (Leave.permits_below permits_waitKey) fun _ => .pure _
            · intro _
              exact permits_change _

end HatReel.Camera
