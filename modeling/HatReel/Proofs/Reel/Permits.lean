import HatReel.Proofs.Camera.Permits
import HatReel.Proofs.Model.Permits
import HatReel.Proofs.Reel.Outcome
import HatReel.Proofs.Reel.Steps

/-! What a run has leave to do.

Every step of a run is built from basic steps of the world and from changes of the devices that the
run holds. A whole run has to do with the keys of its model and with the directories above its
video. -/

namespace HatReel.Rig.Leave

open HatReel.Camera HatReel.Image HatReel.Reel

inductive Staged (l : Leave) : (α : Type) → Act Stage α → Prop where
  | onWorld {α : Type} {x : Act World α} (permits : l.Permits x) : Staged l α (Stage.onWorld x)
  | onGrabber {α : Type} {x : Act (Grabber × World) α} (permits : l.PermitsUse x) :
      Staged l α (Stage.onGrabber x)
  | onRecorder {α : Type} (default : α) {x : Act (Recorder × World) α} (permits : l.PermitsUse x) :
      Staged l α (Stage.onRecorder default x)
  | onPreview {α : Type} (default : α) {x : Act (Preview × World) α} (permits : l.PermitsUse x) :
      Staged l α (Stage.onPreview default x)
  | equip (r : Recorder) : Staged l Unit (.modify fun s => { s with recorder := some r })
  | screen (p : Preview) : Staged l Unit (.modify fun s => { s with preview := some p })
  | turn (rotation : Matrix Float) :
      Staged l Unit (.modify fun s => { s with rotation := some rotation })
  | fail {α : Type} (fault : Fault) (allowed : l.fails fault) : Staged l α (.fail fault)

/-- Built from basic steps on a stage, with a look at the grabber only. -/
abbrev PermitsStage (l : Leave) {α : Type} (x : Act Stage α) : Prop :=
  Act.Built Stage.grabber l.Staged x

variable {l : Leave} {α : Type}

/-- What all basic steps of the world keep, a step on a stage keeps in the world of the stage. -/
theorem PermitsStage.obeys {R : World → List Event → World → Prop} {x : Act Stage α}
    (permits : l.PermitsStage x) (joins : Act.Joins R)
    (each : ∀ (β : Type) (y : Act World β), l.Basic β y → Act.Obeys R y) :
    Act.Obeys (fun s t s' => R s.world t s'.world) x := by
  have joinsBelow : Act.Joins fun (s : Stage) t s' => R s.world t s'.world :=
    ⟨fun s => joins.nothing s.world, fun first second => joins.join first second⟩
  refine Act.Built.obeys permits joinsBelow fun β y is => ?_
  cases is with
  | onWorld inner => exact Act.obeys_on (inner.obeys joins each) fun _ _ _ related => related
  | onGrabber inner => exact Act.obeys_on (inner.obeys joins each) fun _ _ _ related => related
  | @onRecorder _ default y inner =>
      intro s
      cases held : s.recorder with
      | none =>
          rw [Stage.onRecorder_none default held]
          exact joins.nothing s.world
      | some r =>
          have related := inner.obeys joins each (r, s.world)
          rcases step : y (r, s.world) with ⟨answer, ⟨r', w⟩, t⟩
          rw [step] at related
          rw [Stage.onRecorder_run default held step]
          exact related
  | @onPreview _ default y inner =>
      intro s
      cases held : s.preview with
      | none =>
          rw [Stage.onPreview_none default held]
          exact joins.nothing s.world
      | some p =>
          have related := inner.obeys joins each (p, s.world)
          rcases step : y (p, s.world) with ⟨answer, ⟨p', w⟩, t⟩
          rw [step] at related
          rw [Stage.onPreview_run default held step]
          exact related
  | equip r => exact fun s => joins.nothing s.world
  | screen p => exact fun s => joins.nothing s.world
  | turn rotation => exact fun s => joins.nothing s.world
  | fail fault allowed => exact fun s => joins.nothing s.world

structure SameStage (R : World → World → Prop) (s s' : Stage) : Prop where
  grabber : s.grabber = s'.grabber
  recorder : s.recorder = s'.recorder
  preview : s.preview = s'.preview
  rotation : s.rotation = s'.rotation
  world : R s.world s'.world

section

variable {watch : Event → Bool} {R : World → World → Prop}

theorem sameStage_onRecorder (default : α) {x : Act (Recorder × World) α}
    (inner : Act.Matches watch (Act.SameObject R) x x) :
    Act.Matches watch (SameStage R) (Stage.onRecorder default x) (Stage.onRecorder default x) := by
  intro s s' same
  cases held : s.recorder with
  | none =>
      rw [Stage.onRecorder_none default held, Stage.onRecorder_none default (same.recorder ▸ held)]
      exact ⟨rfl, same, rfl⟩
  | some r =>
      have after := inner (r, s.world) (r, s'.world) ⟨rfl, same.world⟩
      rcases step : x (r, s.world) with ⟨answer, ⟨r₁, w⟩, t⟩
      rcases step' : x (r, s'.world) with ⟨answer', ⟨r₁', w'⟩, t'⟩
      rw [step, step'] at after
      obtain ⟨answers, ⟨device, world⟩, traces⟩ := after
      rw [Stage.onRecorder_run default held step,
        Stage.onRecorder_run default (same.recorder ▸ held) step']
      exact ⟨answers, { same with recorder := congrArg some device, world := world }, traces⟩

theorem sameStage_onPreview (default : α) {x : Act (Preview × World) α}
    (inner : Act.Matches watch (Act.SameObject R) x x) :
    Act.Matches watch (SameStage R) (Stage.onPreview default x) (Stage.onPreview default x) := by
  intro s s' same
  cases held : s.preview with
  | none =>
      rw [Stage.onPreview_none default held, Stage.onPreview_none default (same.preview ▸ held)]
      exact ⟨rfl, same, rfl⟩
  | some p =>
      have after := inner (p, s.world) (p, s'.world) ⟨rfl, same.world⟩
      rcases step : x (p, s.world) with ⟨answer, ⟨p₁, w⟩, t⟩
      rcases step' : x (p, s'.world) with ⟨answer', ⟨p₁', w'⟩, t'⟩
      rw [step, step'] at after
      obtain ⟨answers, ⟨device, world⟩, traces⟩ := after
      rw [Stage.onPreview_run default held step,
        Stage.onPreview_run default (same.preview ▸ held) step']
      exact ⟨answers, { same with preview := congrArg some device, world := world }, traces⟩

/-- A relation between worlds that all basic steps respect, a step on a stage respects. -/
theorem PermitsStage.agrees {x : Act Stage α} (permits : l.PermitsStage x)
    (same : ∀ w v, R w v → w.scripts = v.scripts)
    (each : ∀ (β : Type) (y : Act World β), l.Basic β y → Act.Matches watch R y y) :
    Act.Matches watch (SameStage R) x x := by
  refine Act.Built.agrees permits (fun _ _ same => same.grabber) fun β y is => ?_
  cases is with
  | onWorld inner =>
      exact Act.matches_on (inner.agrees same each) (fun _ _ same => same.world)
        fun _ _ _ _ same after => { same with world := after }
  | onGrabber inner =>
      exact Act.matches_on (inner.agrees same each) (fun _ _ same => ⟨same.grabber, same.world⟩)
        fun _ _ _ _ same after => { same with grabber := after.1, world := after.2 }
  | onRecorder default inner => exact sameStage_onRecorder default (inner.agrees same each)
  | onPreview default inner => exact sameStage_onPreview default (inner.agrees same each)
  | equip r => exact Act.matches_modify fun _ _ same => { same with recorder := rfl }
  | screen p => exact Act.matches_modify fun _ _ same => { same with preview := rfl }
  | turn rotation => exact Act.matches_modify fun _ _ same => { same with rotation := rfl }
  | fail fault allowed => exact Act.matches_fail fault

end

theorem PermitsStage.spares {x : Act Stage α} (permits : l.PermitsStage x) :
    Act.Obeys (fun s _ s' => Spares l.changes s.world s'.world) x :=
  permits.obeys (spares_joins l.changes) fun _ _ is => is.spares

end HatReel.Rig.Leave

namespace HatReel.Reel

open HatReel.Camera HatReel.Files HatReel.Image HatReel.Log HatReel.Model HatReel.Rig
  HatReel.Settings

/-- The keys that a run changes: those of the cache of its model, and the directories above its
video. -/
def changed (c : Config) (model : Option String) (homes : Homes) : List Key :=
  cacheKeys homes model c.classifier.cacheDir c.classifier.url ++
    (Path.ofText c.recorder.path).parent.trail

/-- The keys that a run has to do with: besides, those on the way to a model that is given. -/
def ways (c : Config) (model : Option String) (homes : Homes) : List Key :=
  changed c model homes ++ match model with
    | some path => (Path.ofText path).trail
    | none => []

/-- A run has to do with all keys on the way to its model. -/
theorem trail_ways {c : Config} {model : Option String} {homes : Homes} {path : Path}
    (placed : modelPath homes model c.classifier.cacheDir c.classifier.url = .ok path) {key : Key}
    (inside : key ∈ path.trail) : key ∈ ways c model homes := by
  cases model with
  | some name =>
      cases placed
      exact List.mem_append_right _ inside
  | none =>
      have cached : cachedPath c.classifier.url c.classifier.cacheDir homes = .ok path := placed
      apply List.mem_append_left
      apply List.mem_append_left
      unfold cacheKeys
      rw [cached]
      exact trail_fetchKeys inside

def runLeave (c : Config) (model : Option String) (homes : Homes) : Leave :=
  .free (ways c model homes) (changed c model homes) fun _ inside => List.mem_append_left _ inside

def loadModelAt (homes : Homes) (demo : Demo) : Act World Unit := do
  let c := demo.config.classifier
  let path ← resolveAt homes demo.model c.cacheDir c.url (.real c.timeout)
  load path

theorem loadModel_eq (demo : Demo) (w : World) :
    loadModel demo w = loadModelAt w.scripts.homes demo w := rfl

variable {l : Leave}

def nextTime (scripts : Scripts) : Float × Scripts :=
  match scripts.clock with
  | [] => (0.0, scripts)
  | [t] => (t, scripts)
  | t :: rest => (t, { scripts with clock := rest })

theorem permits_readClock : l.Permits readClock := by
  have taken : readClock = fun w =>
      ⟨.ok (nextTime w.scripts).1, { w with scripts := (nextTime w.scripts).2 }, []⟩ := by
    funext w
    unfold readClock nextTime
    rcases w.scripts.clock with _ | ⟨t, _ | ⟨u, rest⟩⟩ <;> rfl
  rw [taken]
  exact .basic (.take nextTime)

section

variable (late : ∀ fault : Fault, fault.isOfInput = false → l.fails fault)

include late

theorem permits_drawRotation (config : Config) (size : Float) :
    l.Permits (drawRotation config size) := by
  unfold drawRotation
  cases config.warp.seed with
  | none =>
      apply Act.Built.look
      · intro w v same
        rw [same]
      · intro w
        exact .pure _
  | some n =>
      by_cases negative : n < 0
      · simp only [negative, if_true]
        exact .bind (Leave.permits_fail (late .negativeSeed rfl)) fun _ => .pure _
      · simp only [negative, if_false]
        exact .bind (.pure _) fun _ => .pure _

theorem permits_process (config : Config) (rotation : Matrix Float) (frame : Frame) :
    l.Permits (process config rotation frame) := by
  apply Act.Built.bind (Leave.permits_require _ (late .picture rfl))
  intro gray
  apply Act.Built.bind
  · apply Act.Built.bind
    · apply Act.Built.bind (Leave.permits_emit (.detect ..) nofun)
      intro _
      apply Act.Built.bind
      · exact .basic (.take fun scripts => ((next (some []) scripts.faces).1,
          { scripts with faces := (next (some []) scripts.faces).2 }))
      · exact fun found => Leave.permits_require found (late .picture rfl)
    · intro faces
      rcases Draw.drawFaces frame faces with ⟨marked, _ | fault⟩
      · exact .pure _
      · exact Leave.permits_fail (late (.face fault) rfl)
  intro marked
  apply Act.Built.bind (Leave.permits_require _ (late .picture rfl))
  intro drawn
  apply Act.Built.bind (Leave.permits_require _ (late .picture rfl))
  intro warped
  exact .pure _

/-- Filming stays within any leave that allows for the faults of pictures and of writing. Only a
read may fail in another way. -/
theorem permits_filmStep {config : Config} {α : Type} {x : Act Stage α} (step : FilmStep config α x)
    (idle : l.fails .grabberIdle) : l.PermitsStage x := by
  cases step with
  | log message => exact .basic (.onWorld (Leave.permits_log _ _ _ (by decide)))
  | clock => exact .basic (.onWorld permits_readClock)
  | draw size => exact .basic (.onWorld (permits_drawRotation late config size))
  | turn rotation => exact .basic (.turn rotation)
  | process rotation frame => exact .basic (.onWorld (permits_process late config rotation frame))
  | grab => exact .basic (.onGrabber (permits_grab idle))
  | isVisible => exact .basic (.onPreview true permits_isVisible)
  | present frame => exact .basic (.onPreview () (permits_present frame))
  | record frame => exact .basic (.onRecorder () (permits_record late frame))

end

/-- The recorder that has been set up is the one that is started. -/
theorem equip_begin {α : Type} (r : Recorder) (rest : Act Stage α) :
    ((.modify fun s => { s with recorder := some r } : Act Stage Unit) >>= fun _ =>
      Stage.onRecorder () Recorder.start >>= fun _ => rest) =
    ((.modify fun s => { s with recorder := some r } : Act Stage Unit) >>= fun _ =>
      Stage.onRecorder () r.begin >>= fun _ => rest) := rfl

def performing (body : Act Stage Stats) : Act Stage Stats := do
  Stage.onGrabber Grabber.start
  let stats ← Act.ensuring body release
  Stage.onWorld (log .info loggerName stats.summary)
  return stats

theorem perform_eq (demo : Demo) : perform demo = performing (body demo) := rfl

theorem permits_release : l.PermitsStage release := by
  apply Act.Built.bind (.basic (.onPreview () permits_dispose))
  intro _
  apply Act.Built.bind (.basic (.onRecorder () permits_stopRecorder))
  intro _
  exact .basic (.onGrabber permits_stopGrabber)

theorem permits_performing {x : Act Stage Stats} (inner : l.PermitsStage x)
    (noSource : ∀ source, l.fails (.noSource source)) : l.PermitsStage (performing x) := by
  apply Act.Built.bind (.basic (.onGrabber (permits_startGrabber noSource)))
  intro _
  apply Act.Built.bind (.ensuring inner permits_release)
  intro stats
  apply Act.Built.bind (.basic (.onWorld (Leave.permits_log _ _ _ (by decide))))
  intro _
  exact .pure stats

section

variable (any : ∀ fault, l.fails fault)

include any

theorem permits_recording (demo : Demo) (frame : Image.Frame)
    (own : ∀ key ∈ (Path.ofText demo.config.recorder.path).parent.trail, key ∈ l.changes) :
    l.PermitsStage (recording demo frame) := by
  unfold recording
  rw [equip_begin]
  apply Act.Built.bind (.basic (.onWorld (Leave.permits_log _ _ _ (by decide))))
  intro _
  apply Act.Built.bind (.basic (.equip _))
  intro _
  apply Act.Built.bind (.basic (.onRecorder () (permits_begin (fun fault _ => any fault) own)))
  intro _
  apply Act.Built.bind
  · cases makePreview demo with
    | ok p => exact .pure p
    | error fault => exact .basic (.fail fault (any fault))
  intro p
  apply Act.Built.bind (.basic (.screen p))
  intro _
  exact Act.Built.trans (built_filming demo frame) (fun _ _ same => same) fun _ _ step =>
    permits_filmStep (fun fault _ => any fault) step (any .grabberIdle)

theorem permits_perform (demo : Demo)
    (own : ∀ key ∈ (Path.ofText demo.config.recorder.path).parent.trail, key ∈ l.changes) :
    l.PermitsStage (perform demo) := by
  rw [perform_eq]
  refine permits_performing ?_ fun _ => any _
  rw [body_eq]
  apply Act.Built.bind (.basic (.onGrabber (permits_grab (any .grabberIdle))))
  intro read
  cases read with
  | none => exact .basic (.fail _ (any _))
  | some frame => exact permits_recording any demo frame own

/-- Loading a model has to do with the keys of its cache, or with those on the way to it. -/
theorem permits_loadModelAt (homes : Homes) (demo : Demo)
    (own : ∀ key ∈ changed demo.config demo.model homes, key ∈ l.changes)
    (seen : ∀ key ∈ ways demo.config demo.model homes, key ∈ l.sees) :
    l.Permits (loadModelAt homes demo) := by
  have ownCache : ∀ key ∈ cacheKeys homes demo.model demo.config.classifier.cacheDir
      demo.config.classifier.url, key ∈ l.changes := fun key inside =>
    own key (List.mem_append_left _ inside)
  have resolves := allows_resolveAt any homes demo.model demo.config.classifier.cacheDir
    demo.config.classifier.url (.real demo.config.classifier.timeout) ownCache
  unfold loadModelAt
  cases place : modelPath homes demo.model demo.config.classifier.cacheDir
      demo.config.classifier.url with
  | error fault =>
      rw [resolveAt_unplaced place]
      exact (allows_fail (any fault)).permits
  | ok path =>
      rw [resolveAt_bind place]
      apply Act.Built.bind resolves.permits
      intro _
      exact permits_load any path fun key inside => seen key (trail_ways place inside)

end

end HatReel.Reel
