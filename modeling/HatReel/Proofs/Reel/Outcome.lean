import HatReel.Proofs.Model.Loading
import HatReel.Proofs.Reel.Release

/-! The ways a run can end.

Either the model does not load, or the source does not open, or the body begins. Then the run ends
as the body ends, whatever that is, once all devices have been let go. -/

namespace HatReel.Reel

open HatReel.Camera HatReel.Log HatReel.Model HatReel.Rig

theorem fetches_loadModel (demo : Demo) : Act.Obeys Fetches (loadModel demo) :=
  Act.obeys_bind fetches_joins (fetches_resolve _ _ _ _) fun path => fetches_load path

def Demo.ofSource (config : Config) (model : Option String) (preview : Option Preview)
    (source : Source) : Demo where
  config := config
  model := model
  preview := preview
  grabber :=
    { source, width := config.camera.width, height := config.camera.height
      gamma := config.camera.gamma }

theorem make_iff {config : Config} {model : Option String} {preview : Option Preview}
    {demo : Demo} :
    Demo.make config model preview = .ok demo ↔
      ∃ source, config.camera.source.normalize = .ok source ∧
        demo = Demo.ofSource config model preview source := by
  unfold Demo.make Grabber.ofSource
  dsimp only
  cases config.camera.source.normalize with
  | error fault => exact ⟨nofun, nofun⟩
  | ok source =>
      constructor
      · rintro ⟨⟩
        exact ⟨source, rfl, rfl⟩
      · rintro ⟨_, ⟨⟩, rfl⟩
        rfl

theorem make_grabber {config : Config} {model : Option String} {preview : Option Preview}
    {demo : Demo} (made : Demo.make config model preview = .ok demo) :
    demo.grabber.capture = none ∧ demo.preview = preview := by
  obtain ⟨source, -, rfl⟩ := make_iff.mp made
  exact ⟨rfl, rfl⟩

theorem make_config {config : Config} {model : Option String} {preview : Option Preview}
    {demo : Demo} (made : Demo.make config model preview = .ok demo) :
    demo.config = config ∧ demo.model = model := by
  obtain ⟨source, -, rfl⟩ := make_iff.mp made
  exact ⟨rfl, rfl⟩

def Demo.stage (demo : Demo) (w : World) : Stage :=
  ⟨demo.grabber, none, none, demo.rotation, w⟩

def Demo.keeping (demo : Demo) (s : Stage) : Demo :=
  { demo with
    grabber := s.grabber
    preview := if demo.preview.isSome && s.preview.isSome then s.preview else demo.preview
    rotation := s.rotation }

def Demo.opened (demo : Demo) (reads : List (Option Image.Frame)) (w : World) : Stage :=
  { demo.stage w with grabber := { demo.grabber with capture := some ⟨reads⟩ } }

/-- A run without its release: it loads the model, starts the grabber and goes through the body. -/
def attempt (demo : Demo) : Act Stage Stats := do
  Stage.onWorld (loadModel demo)
  Stage.onGrabber Grabber.start
  body demo

/-- How a run ends. A fault of the body stays what it is, and a result as well. -/
inductive Outcome (demo : Demo) (w : World) : Ran (Demo × World) Stats → Prop where
  | unloaded (fault : Fault) (w₁ : World) (loading : List Event) (fetches : Fetches w loading w₁)
      (attempted : attempt demo (demo.stage w) = ⟨.error fault, demo.stage w₁, loading⟩) :
      Outcome demo w ⟨.error fault, (demo, w₁), loading⟩
  | refused (w₁ : World) (loading : List Event) (fetches : Fetches w loading w₁)
      (attempted : attempt demo (demo.stage w) = ⟨.error (.noSource demo.grabber.source),
        demo.stage (Grabber.captureTaken w₁),
        loading ++ [.captureOpen demo.grabber.source, .captureRelease]⟩) :
      Outcome demo w ⟨.error (.noSource demo.grabber.source), (demo, Grabber.captureTaken w₁),
        loading ++ [.captureOpen demo.grabber.source, .captureRelease]⟩
  | ended (w₁ w₂ w₃ w₄ : World) (s : Stage) (answer : Except Fault Stats)
      (loading starting filming t₁ t₂ t₃ summing : List Event) (responses : List Response)
      (fetches : Fetches w loading w₁) (opens : (Grabber.nextCapture w).opens = true)
      (scripts : w₂.scripts = { (Grabber.captureTaken w).scripts with responses := responses })
      (within : Within [.camera, .journal] starting) (quiet : Quiet starting)
      (unread : goodReads starting = 0)
      (filmed : body demo (demo.opened (Grabber.nextCapture w).reads w₂) =
        ⟨answer, s, filming⟩)
      (attempted : attempt demo (demo.stage w) =
        ⟨answer, s, loading ++ (.captureOpen demo.grabber.source :: starting ++ filming)⟩)
      (releases : Releases s t₁ t₂ t₃) (logs : Logs w₃ summing w₄) :
      Outcome demo w ⟨answer, (demo.keeping (s.released w₃), w₄),
        loading ++ (.captureOpen demo.grabber.source :: starting ++
          (filming ++ (t₁ ++ (t₂ ++ t₃)) ++ summing))⟩

theorem keeping_stage (demo : Demo) (w : World) : demo.keeping (demo.stage w) = demo := by
  simp [Demo.keeping, Demo.stage]

theorem perform_refused {demo : Demo} {w : World}
    (refused : (Grabber.nextCapture w).opens = false) :
    perform demo (demo.stage w) = ⟨.error (.noSource demo.grabber.source),
      demo.stage (Grabber.captureTaken w),
      [.captureOpen demo.grabber.source, .captureRelease]⟩ := by
  unfold perform
  exact Act.bind_of_error _ (Stage.onGrabber_run (Grabber.start_refused refused))

/-- After the release nothing can fail any more: a result is summed up in the journal. -/
theorem perform_opened {demo : Demo} {w w₁ w₂ : World} {s : Stage} {answer : Except Fault Stats}
    {starting filming releasing : List Event} {reads : List (Option Image.Frame)}
    (started : Grabber.start (demo.grabber, w) =
      ⟨.ok (), ({ demo.grabber with capture := some ⟨reads⟩ }, w₁), starting⟩)
    (filmed : body demo (demo.opened reads w₁) = ⟨answer, s, filming⟩)
    (released : release s = ⟨.ok (), s.released w₂, releasing⟩) :
    ∃ w₃ summing, Logs w₂ summing w₃ ∧ perform demo (demo.stage w) =
      ⟨answer, s.released w₃, starting ++ ((filming ++ releasing) ++ summing)⟩ := by
  have ensured := Act.ensuring_run filmed released
  cases answer with
  | error fault =>
      refine ⟨w₂, [], ⟨rfl, Within.nil⟩, ?_⟩
      unfold perform
      refine Act.bind_run (Stage.onGrabber_run started) (Act.bind_of_error _ ensured) ?_
      rw [List.append_nil]
  | ok stats =>
      obtain ⟨w₃, summing, logged, logs⟩ := log_run .info loggerName stats.summary w₂
      refine ⟨w₃, summing, logs, ?_⟩
      unfold perform
      refine Act.bind_run (Stage.onGrabber_run started) ?_ rfl
      refine Act.bind_run ensured ?_ rfl
      exact Act.bind_run (Stage.onWorld_run logged) (Act.pure_run _ _) (List.append_nil _).symm

theorem run_of_unloaded {demo : Demo} {w w₁ : World} {fault : Fault} {loading : List Event}
    (unloaded : loadModel demo w = ⟨.error fault, w₁, loading⟩) :
    run (demo, w) = ⟨.error fault, (demo, w₁), loading⟩ := by
  unfold run
  rw [Act.get_bind]
  exact Act.bind_of_error _ (Act.below_run unloaded demo)

theorem run_of_perform {demo : Demo} {w w₁ : World} {s : Stage} {answer : Except Fault Stats}
    {loading t : List Event} (loaded : loadModel demo w = ⟨.ok (), w₁, loading⟩)
    (performed : perform demo (demo.stage w₁) = ⟨answer, s, t⟩) :
    run (demo, w) = ⟨answer, (demo.keeping s, s.world), loading ++ t⟩ := by
  unfold run
  rw [Act.get_bind]
  exact Act.bind_run (Act.below_run loaded demo) (Act.on_run performed) rfl

theorem run_outcome (demo : Demo) (w : World) : Outcome demo w (run (demo, w)) := by
  have fetches := fetches_loadModel demo w
  rcases loaded : loadModel demo w with ⟨_ | _, w₁, loading⟩
  · rename_i fault
    rw [loaded] at fetches
    rw [run_of_unloaded loaded]
    exact .unloaded fault w₁ loading fetches
      (Act.bind_of_error _ (Stage.onWorld_run (s := demo.stage w) loaded))
  · rw [loaded] at fetches
    obtain ⟨responses, scripts₁⟩ := fetches.scripts
    change w₁.scripts = _ at scripts₁
    have same : Grabber.nextCapture w₁ = Grabber.nextCapture w := by
      simp only [Grabber.nextCapture, scripts₁]
    have taken : (Grabber.captureTaken w₁).scripts =
        { (Grabber.captureTaken w).scripts with responses := responses } := by
      simp only [Grabber.captureTaken, scripts₁]
    have loadedStage := Stage.onWorld_run (s := demo.stage w) loaded
    cases opens : (Grabber.nextCapture w₁).opens with
    | false =>
        have begun := Stage.onGrabber_run (s := demo.stage w₁) (Grabber.start_refused opens)
        rw [run_of_perform loaded (perform_refused opens), keeping_stage]
        exact .refused w₁ loading fetches
          (Act.bind_run loadedStage (Act.bind_of_error _ begun) rfl)
    | true =>
        obtain ⟨w₂, starting, started, scripts₂, within, quiet, unread⟩ :=
          Grabber.start_opened (g := demo.grabber) opens
        rw [same] at started opens
        have begun := Stage.onGrabber_run (s := demo.stage w₁) started
        rcases filmed : body demo (demo.opened (Grabber.nextCapture w).reads w₂) with
          ⟨answer, s, filming⟩
        obtain ⟨w₃, t₁, t₂, t₃, released, releases⟩ := release_run s
        obtain ⟨w₄, summing, logs, performed⟩ := perform_opened started filmed released
        rw [run_of_perform loaded performed]
        exact .ended w₁ w₂ w₃ w₄ s answer loading starting filming t₁ t₂ t₃ summing responses
          fetches opens (scripts₂.trans taken) within quiet unread filmed
          (Act.bind_run loadedStage (Act.bind_run begun filmed rfl) rfl) releases logs

def blackFrame : Image.Frame := ⟨2, 2, 3, Vector.replicate 12 0⟩

def blackWorld (frames : Nat) : World where
  scripts := { captures := [⟨true, List.replicate frames (some blackFrame)⟩] }
  files := { entries := [(["", "m.xml"], .file [])] }

def shortConfig : Config := { run := ⟨some 2⟩, warp := { seed := some 1 } }

def shortDemo : Demo where
  config := shortConfig
  model := some "m.xml"
  grabber := ⟨.index 0, none, none, 2.2, none⟩

end HatReel.Reel
