import HatReel.Proofs.Reel.Outcome
import HatReel.Proofs.Reel.Steps

/-! Runs of one reel do not influence each other.

Of all that a reel holds, a run changes the last rotation only: its grabber is idle again when the
run is over. A run draws its rotation before it uses one, so that it goes the same way whatever
rotation it finds. -/

namespace HatReel.Reel

open HatReel.Camera HatReel.Image HatReel.Log HatReel.Model HatReel.Rig

/-- Two stages that differ in their rotations at most. -/
def Turned (s s' : Stage) : Prop := ∃ rotation, s' = { s with rotation := rotation }

/-- From stages that differ in their rotations at most, a step goes the same way. -/
def Blind {α : Type} (x : Act Stage α) : Prop := Act.Matches (fun _ => true) Turned x x

section

variable {α : Type}

theorem blind_onWorld (x : Act World α) : Blind (Stage.onWorld x) := by
  rintro s _ ⟨rotation, rfl⟩
  rcases step : x s.world with ⟨answer, w, t⟩
  rw [Stage.onWorld_run step,
    Stage.onWorld_run (s := { s with rotation := rotation }) step]
  exact ⟨rfl, ⟨rotation, rfl⟩, rfl⟩

theorem blind_onGrabber (x : Act (Grabber × World) α) : Blind (Stage.onGrabber x) := by
  rintro s _ ⟨rotation, rfl⟩
  rcases step : x (s.grabber, s.world) with ⟨answer, ⟨g, w⟩, t⟩
  rw [Stage.onGrabber_run step,
    Stage.onGrabber_run (s := { s with rotation := rotation }) step]
  exact ⟨rfl, ⟨rotation, rfl⟩, rfl⟩

theorem blind_onRecorder (default : α) (x : Act (Recorder × World) α) :
    Blind (Stage.onRecorder default x) := by
  rintro ⟨grabber, recorder, preview, before, w⟩ _ ⟨rotation, rfl⟩
  cases recorder with
  | none => exact ⟨rfl, ⟨rotation, rfl⟩, rfl⟩
  | some r =>
      rcases step : x (r, w) with ⟨answer, ⟨r', w'⟩, t⟩
      rw [Stage.onRecorder_run default rfl step, Stage.onRecorder_run default rfl step]
      exact ⟨rfl, ⟨rotation, rfl⟩, rfl⟩

theorem blind_onPreview (default : α) (x : Act (Preview × World) α) :
    Blind (Stage.onPreview default x) := by
  rintro ⟨grabber, recorder, preview, before, w⟩ _ ⟨rotation, rfl⟩
  cases preview with
  | none => exact ⟨rfl, ⟨rotation, rfl⟩, rfl⟩
  | some p =>
      rcases step : x (p, w) with ⟨answer, ⟨p', w'⟩, t⟩
      rw [Stage.onPreview_run default rfl step, Stage.onPreview_run default rfl step]
      exact ⟨rfl, ⟨rotation, rfl⟩, rfl⟩

end

theorem blind_filming (demo : Demo) (frame : Frame) : Blind (filming demo frame) := by
  refine (built_filming demo frame).agrees ?_ fun α x step => ?_
  · rintro s _ ⟨rotation, rfl⟩
    rfl
  · cases step with
    | turn rotation =>
        apply Act.matches_modify
        rintro s _ ⟨_, rfl⟩
        exact ⟨some rotation, rfl⟩
    | log message => exact blind_onWorld _
    | clock => exact blind_onWorld _
    | draw size => exact blind_onWorld _
    | process rotation frame => exact blind_onWorld _
    | grab => exact blind_onGrabber _
    | isVisible => exact blind_onPreview _ _
    | present frame => exact blind_onPreview _ _
    | record frame => exact blind_onRecorder _ _

theorem blind_body (demo : Demo) : Blind (body demo) := by
  rw [body_eq]
  refine Act.matches_bind (blind_onGrabber _) fun read => ?_
  cases read with
  | none => exact Act.matches_fail _
  | some frame =>
      refine Act.matches_bind (blind_onWorld _) fun _ => ?_
      refine Act.matches_bind (Act.matches_modify ?_) fun _ => ?_
      · rintro s _ ⟨rotation, rfl⟩
        exact ⟨rotation, rfl⟩
      refine Act.matches_bind (blind_onRecorder _ _) fun _ => ?_
      refine Act.matches_bind (Act.matches_ofExcept _ _) fun p => ?_
      refine Act.matches_bind (Act.matches_modify ?_) fun _ => blind_filming demo frame
      rintro s _ ⟨rotation, rfl⟩
      exact ⟨rotation, rfl⟩

theorem blind_perform (demo : Demo) : Blind (perform demo) := by
  have releases : Blind release :=
    Act.matches_bind (blind_onPreview _ _) fun _ =>
      Act.matches_bind (blind_onRecorder _ _) fun _ => blind_onGrabber _
  refine Act.matches_bind (blind_onGrabber _) fun _ => ?_
  refine Act.matches_bind (Act.matches_ensuring (blind_body demo) releases) fun stats => ?_
  exact Act.matches_bind (blind_onWorld _) fun _ => Act.matches_pure stats

def Aims (s : Stage) (_ : List Event) (s' : Stage) : Prop :=
  { s'.grabber with capture := none } = { s.grabber with capture := none }

theorem aims_onWorld {α : Type} (x : Act World α) : Act.Obeys Aims (Stage.onWorld x) :=
  fun _ => rfl

theorem aims_onPreview {α : Type} (default : α) (x : Act (Preview × World) α) :
    Act.Obeys Aims (Stage.onPreview default x) := by
  intro s
  cases held : s.preview with
  | none =>
      rw [Stage.onPreview_none default held]
      rfl
  | some p =>
      rcases step : x (p, s.world) with ⟨answer, ⟨p', w⟩, t⟩
      rw [Stage.onPreview_run default held step]
      rfl

theorem aims_onRecorder {α : Type} (default : α) (x : Act (Recorder × World) α) :
    Act.Obeys Aims (Stage.onRecorder default x) := by
  intro s
  cases held : s.recorder with
  | none =>
      rw [Stage.onRecorder_none default held]
      rfl
  | some r =>
      rcases step : x (r, s.world) with ⟨answer, ⟨r', w⟩, t⟩
      rw [Stage.onRecorder_run default held step]
      rfl

theorem aims_grab : Act.Obeys Aims (Stage.onGrabber Grabber.grab) := by
  intro s
  cases capture : s.grabber.capture with
  | none =>
      rw [Stage.onGrabber_run (Grabber.grab_idle capture)]
      rfl
  | some held =>
      rw [Stage.onGrabber_run (Grabber.grab_held capture)]
      rfl

theorem kept_aims (demo : Demo) : Kept demo Aims where
  joins :=
    { nothing := fun _ => rfl
      join := fun first second => second.trans first }
  log _ := aims_onWorld _
  clock := aims_onWorld _
  draw _ := aims_onWorld _
  turn _ _ := rfl
  process _ _ := aims_onWorld _
  grab := aims_grab
  isVisible := aims_onPreview _ _
  present _ := aims_onPreview _ _
  record _ := aims_onRecorder _ _
  equip _ _ := rfl
  start := aims_onRecorder _ _
  open_preview _ _ _ := rfl

/-- What a reel without a preview of its own can become by runs, in whatever worlds and with
whatever outcomes. -/
inductive Used (demo : Demo) : Demo → Prop where
  | fresh : Used demo demo
  | again {used : Demo} (before : Used demo used) (w : World) : Used demo (run (used, w)).state.1

theorem run_turned {demo : Demo} (idle : demo.grabber.capture = none) (own : demo.preview = none)
    (w : World) : ∃ rotation, (run (demo, w)).state.1 = { demo with rotation := rotation } := by
  have outcome := run_outcome demo w
  rcases ran : run (demo, w) with ⟨answer, ⟨demo', w'⟩, t⟩
  rw [ran] at outcome
  cases outcome with
  | unloaded => exact ⟨demo.rotation, rfl⟩
  | refused => exact ⟨demo.rotation, rfl⟩
  | ended w₁ w₂ w₃ w₄ s answer loading starting filming t₁ t₂ t₃ summing responses fetches opens
      scripts within quiet unread filmed attempted releases logs =>
      have aims := (kept_aims demo).body (demo.opened (Grabber.nextCapture w).reads w₂)
      rw [filmed] at aims
      have grabber : { s.grabber with capture := none } = demo.grabber := by
        rw [show _ = _ from aims]
        rcases demo with ⟨config, model, ⟨source, width, height, gamma, capture⟩, preview, rotation⟩
        cases idle
        rfl
      refine ⟨s.rotation, ?_⟩
      simp [Demo.keeping, Stage.released, own, grabber]

theorem Used.turned {demo used : Demo} (idle : demo.grabber.capture = none)
    (own : demo.preview = none) (runs : Used demo used) :
    ∃ rotation, used = { demo with rotation := rotation } := by
  induction runs with
  | fresh => exact ⟨demo.rotation, rfl⟩
  | again before w ih =>
      obtain ⟨rotation, rfl⟩ := ih
      have idle' : ({ demo with rotation := rotation } : Demo).grabber.capture = none := idle
      exact run_turned idle' own w

/-- A reel that has been used for any runs goes on as a fresh one does: the same answer, the same
events and the same world afterwards. -/
theorem run_again {config : Config} {model : Option String} {demo used : Demo}
    (made : Demo.make config model none = .ok demo) (runs : Used demo used) (w : World) :
    (run (used, w)).answer = (run (demo, w)).answer ∧
      (run (used, w)).trace = (run (demo, w)).trace ∧
      (run (used, w)).state.2 = (run (demo, w)).state.2 := by
  obtain ⟨idle, own⟩ := make_grabber made
  obtain ⟨rotation, rfl⟩ := runs.turned idle own
  -- Only the stage on which the run begins knows the rotation.
  let used : Demo := { demo with rotation := rotation }
  rcases loaded : loadModel demo w with ⟨_ | _, w₁, loading⟩
  · rename_i fault
    have loaded' : loadModel used w = ⟨.error fault, w₁, loading⟩ := loaded
    rw [run_of_unloaded loaded, run_of_unloaded loaded']
    exact ⟨rfl, rfl, rfl⟩
  · rcases performed : perform demo (demo.stage w₁) with ⟨answer, s, t⟩
    have alike := blind_perform demo (demo.stage w₁) (used.stage w₁) ⟨rotation, rfl⟩
    rw [performed] at alike
    rcases other : perform demo (used.stage w₁) with ⟨answer', s', t'⟩
    rw [other] at alike
    obtain ⟨same, ⟨last, rfl⟩, looks⟩ := alike
    cases same
    rw [List.filter_eq_self.mpr fun _ _ => rfl, List.filter_eq_self.mpr fun _ _ => rfl] at looks
    cases looks
    have loaded' : loadModel used w = ⟨.ok (), w₁, loading⟩ := loaded
    have other' : perform used (used.stage w₁) = _ := other
    rw [run_of_perform loaded performed, run_of_perform loaded' other']
    exact ⟨rfl, rfl, rfl⟩

/-- A run that finds no frames and one that returns, and then the run of a fresh reel. -/
theorem run_again_short :
    let used := (run ((run (shortDemo, blackWorld 0)).state.1, blackWorld 4)).state.1
    Demo.make shortConfig (some "m.xml") none = .ok shortDemo ∧ Used shortDemo used ∧
      (run (used, blackWorld 3)).answer = (run (shortDemo, blackWorld 3)).answer := by
  intro used
  have made : Demo.make shortConfig (some "m.xml") none = .ok shortDemo := rfl
  have runs : Used shortDemo used := (Used.fresh.again (blackWorld 0)).again (blackWorld 4)
  exact ⟨made, runs, (run_again made runs (blackWorld 3)).1⟩

end HatReel.Reel
