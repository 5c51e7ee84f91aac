import HatReel.Proofs.Rig.Built
import HatReel.Proofs.Reel.Stage

/-! The body of a run as a sequence of steps.

What every single step of a body keeps, the body keeps, whatever that is: how the loop is built is
gone through once here, and not for each thing that is kept. The same holds of two bodies side by
side. -/

namespace HatReel.Reel

open HatReel.Camera HatReel.Image HatReel.Log HatReel.Model HatReel.Rig

def Demo.recorder (demo : Demo) (frame : Frame) : Recorder where
  path := Files.Path.ofText demo.config.recorder.path
  width := frame.width
  height := frame.height
  fps := .real demo.config.recorder.fps
  fourcc := demo.config.recorder.fourcc

def filming (demo : Demo) (frame : Frame) : Act Stage Stats := do
  let rotation ← Stage.onWorld (drawRotation demo.config (frameSize frame))
  .modify fun s => { s with rotation := some rotation }
  Stage.onWorld (log .info loggerName s!"Random rotation:\n{rotation.text}")
  let start ← Stage.onWorld readClock
  let fuel := readsLeft (← Act.get).grabber + 1
  let stats ← loop demo.config rotation fuel
    { output := Files.Path.ofText demo.config.recorder.path }
  let now ← Stage.onWorld readClock
  return { stats with elapsed := now - start }

def recording (demo : Demo) (frame : Frame) : Act Stage Stats := do
  Stage.onWorld (log .info loggerName s!"Frame size: {frame.width}x{frame.height}")
  .modify fun s => { s with recorder := some (demo.recorder frame) }
  Stage.onRecorder () Recorder.start
  let preview ← Act.ofExcept id (makePreview demo)
  .modify fun s => { s with preview := some preview }
  filming demo frame

theorem body_eq (demo : Demo) : body demo = (Stage.onGrabber Grabber.grab >>= fun
    | none => .fail .noFrames
    | some frame => recording demo frame) := rfl

inductive FilmStep (config : Config) : (α : Type) → Act Stage α → Prop where
  | log (message : String) : FilmStep config Unit (Stage.onWorld (log .info loggerName message))
  | clock : FilmStep config Float (Stage.onWorld readClock)
  | draw (size : Float) : FilmStep config _ (Stage.onWorld (drawRotation config size))
  | turn (rotation : Matrix Float) :
      FilmStep config Unit (.modify fun s => { s with rotation := some rotation })
  | process (rotation : Matrix Float) (frame : Frame) :
      FilmStep config _ (Stage.onWorld (process config rotation frame))
  | grab : FilmStep config _ (Stage.onGrabber Grabber.grab)
  | isVisible : FilmStep config Bool (Stage.onPreview true Preview.isVisible)
  | present (frame : Frame) : FilmStep config Unit (Stage.onPreview () (Preview.present frame))
  | record (frame : Frame) : FilmStep config Unit (Stage.onRecorder () (Recorder.record frame))

abbrev IsFilming (config : Config) {α : Type} (x : Act Stage α) : Prop :=
  Act.Built Stage.grabber (FilmStep config) x

section

variable (config : Config)

theorem built_handle (rotation : Matrix Float) (frame : Frame) (stats : Stats) :
    IsFilming config (handle config rotation frame stats) := by
  apply Act.Built.bind (.basic (.process rotation frame))
  intro done
  apply Act.Built.bind (.basic (.present done.warped))
  intro _
  apply Act.Built.bind (.basic (.record done.warped))
  intro _
  exact .pure _

/-- The loop is built from its rounds, however many its fuel allows. -/
theorem built_loop (rotation : Matrix Float) (fuel : Nat) (stats : Stats) :
    IsFilming config (loop config rotation fuel stats) := by
  induction fuel generalizing stats with
  | zero => exact .pure stats
  | succ fuel ih =>
      apply Act.Built.bind (.basic .isVisible)
      intro visible
      cases visible with
      | false => exact .pure stats
      | true =>
          apply Act.Built.bind (.basic .grab)
          intro read
          cases read with
          | none => exact .pure stats
          | some frame =>
              apply Act.Built.bind (built_handle config rotation frame stats)
              intro after
              cases isEnough config after with
              | none => exact ih after
              | some n => exact .bind (.basic (.log _)) fun _ => .pure after

end

theorem built_filming (demo : Demo) (frame : Frame) :
    IsFilming demo.config (filming demo frame) := by
  apply Act.Built.bind (.basic (.draw (frameSize frame)))
  intro rotation
  apply Act.Built.bind (.basic (.turn rotation))
  intro _
  apply Act.Built.bind (.basic (.log _))
  intro _
  apply Act.Built.bind (.basic .clock)
  intro start
  apply Act.Built.look
  · intro s t same
    simp only [same]
  · intro s
    apply Act.Built.bind (built_loop demo.config rotation _ _)
    intro stats
    exact .bind (.basic .clock) fun now => .pure _

structure KeptFilming (config : Config) (R : Stage → List Event → Stage → Prop) : Prop where
  joins : Act.Joins R
  log : ∀ message, Act.Obeys R (Stage.onWorld (log .info loggerName message))
  clock : Act.Obeys R (Stage.onWorld readClock)
  draw : ∀ size, Act.Obeys R (Stage.onWorld (drawRotation config size))
  turn : ∀ rotation, Act.Obeys R (.modify fun s => { s with rotation := some rotation })
  process : ∀ rotation frame, Act.Obeys R (Stage.onWorld (process config rotation frame))
  grab : Act.Obeys R (Stage.onGrabber Grabber.grab)
  isVisible : Act.Obeys R (Stage.onPreview true Preview.isVisible)
  present : ∀ frame, Act.Obeys R (Stage.onPreview () (Preview.present frame))
  record : ∀ frame, Act.Obeys R (Stage.onRecorder () (Recorder.record frame))

theorem KeptFilming.obeys {config : Config} {R : Stage → List Event → Stage → Prop}
    (kept : KeptFilming config R) {α : Type} {x : Act Stage α} (built : IsFilming config x) :
    Act.Obeys R x := by
  refine built.obeys kept.joins fun α x step => ?_
  cases step with
  | log message => exact kept.log message
  | clock => exact kept.clock
  | draw size => exact kept.draw size
  | turn rotation => exact kept.turn rotation
  | process rotation frame => exact kept.process rotation frame
  | grab => exact kept.grab
  | isVisible => exact kept.isVisible
  | present frame => exact kept.present frame
  | record frame => exact kept.record frame

theorem KeptFilming.filming {demo : Demo} {R : Stage → List Event → Stage → Prop}
    (kept : KeptFilming demo.config R) (frame : Frame) : Act.Obeys R (filming demo frame) :=
  kept.obeys (built_filming demo frame)

structure Kept (demo : Demo) (R : Stage → List Event → Stage → Prop) : Prop
    extends KeptFilming demo.config R where
  equip : ∀ frame, Act.Obeys R (.modify fun s => { s with recorder := some (demo.recorder frame) })
  start : Act.Obeys R (Stage.onRecorder () Recorder.start)
  open_preview : ∀ p, makePreview demo = .ok p →
    Act.Obeys R (.modify fun s => { s with preview := some p })

theorem Kept.body {demo : Demo} {R : Stage → List Event → Stage → Prop} (kept : Kept demo R) :
    Act.Obeys R (body demo) := by
  rw [body_eq]
  refine Act.obeys_bind kept.joins kept.grab fun read => ?_
  cases read with
  | none => exact Act.obeys_fail kept.joins _
  | some frame =>
      refine Act.obeys_bind kept.joins (kept.log _) fun _ => ?_
      refine Act.obeys_bind kept.joins (kept.equip frame) fun _ => ?_
      refine Act.obeys_bind kept.joins kept.start fun _ => ?_
      refine Act.obeys_bind_of kept.joins (Act.obeys_ofExcept kept.joins _ _)
        fun s p next t made => ?_
      obtain ⟨isPreview, -, -⟩ := Act.ofExcept_ok made
      exact Act.obeys_bind kept.joins (kept.open_preview p isPreview)
        (fun _ => kept.filming frame) next

/-- Two frames are handled side by side if the steps of handling them match. -/
theorem matches_handle {watch : Event → Bool} {S : Stage → Stage → Prop} {config : Config}
    (process : ∀ rotation frame, Act.Matches watch S (Stage.onWorld (process config rotation frame))
      (Stage.onWorld (process config rotation frame)))
    (present : ∀ frame, Act.Matches watch S (Stage.onPreview () (Preview.present frame))
      (Stage.onPreview () (Preview.present frame)))
    (record : ∀ frame, Act.Matches watch S (Stage.onRecorder () (Recorder.record frame))
      (Stage.onRecorder () (Recorder.record frame)))
    (rotation : Matrix Float) (frame : Frame) (stats : Stats) :
    Act.Matches watch S (handle config rotation frame stats)
      (handle config rotation frame stats) := by
  refine Act.matches_bind (process rotation frame) fun done => ?_
  refine Act.matches_bind (present done.warped) fun _ => ?_
  exact Act.matches_bind (record done.warped) fun _ => Act.matches_pure _

end HatReel.Reel
