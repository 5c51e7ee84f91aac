import HatReel.Proofs.Reel.Permits
import HatReel.Proofs.Rig.Beside

/-! A reel that is made and run.

Whatever all basic steps within its leave keep or respect, a whole run keeps or respects: it does so
as long as it loads its model, and then on the stage. -/

namespace HatReel.Reel

open HatReel.Files HatReel.Files.Store HatReel.Log HatReel.Rig HatReel.Settings

def play (c : Config) (model : Option String) : Act World Stats := do
  let demo ← Act.ofExcept id (Demo.make c model none)
  .withState demo run

section

variable {c : Config} {model : Option String}

theorem play_unmade {fault : Fault} (unmade : Demo.make c model none = .error fault) (w : World) :
    play c model w = ⟨.error fault, w, []⟩ := by
  unfold play
  rw [unmade]
  rfl

theorem play_run {demo : Demo} (made : Demo.make c model none = .ok demo) (w : World) :
    play c model w = ⟨(run (demo, w)).answer, (run (demo, w)).state.2, (run (demo, w)).trace⟩ := by
  unfold play
  rw [made]
  rfl

theorem permits_loading (homes : Homes) {demo : Demo} (config : demo.config = c)
    (isModel : demo.model = model) :
    (runLeave c model homes).Permits (loadModelAt homes demo) := by
  subst config isModel
  exact permits_loadModelAt (fun _ => trivial) homes demo (fun _ inside => inside)
    fun _ inside => inside

theorem permits_performance (homes : Homes) {demo : Demo} (config : demo.config = c) :
    (runLeave c model homes).PermitsStage (perform demo) := by
  subst config
  exact permits_perform (fun _ => trivial) demo fun _ inside => List.mem_append_right _ inside

theorem play_obeys (c : Config) (model : Option String) {R : World → List Event → World → Prop}
    (joins : Act.Joins R) (w : World)
    (each : ∀ (α : Type) (x : Act World α), (runLeave c model w.scripts.homes).Basic α x →
      Act.Obeys R x) :
    R w (play c model w).trace (play c model w).state := by
  unfold play
  cases made : Demo.make c model none with
  | error fault => exact Act.obeys_fail joins fault w
  | ok demo =>
      obtain ⟨config, isModel⟩ := make_config made
      rw [Act.ofExcept_ok_bind]
      have loads := (permits_loading w.scripts.homes config isModel).obeys joins each w
      rw [← loadModel_eq] at loads
      rcases loaded : loadModel demo w with ⟨fault | ⟨⟩, w₁, loading⟩ <;> rw [loaded] at loads
      · have ran := run_of_unloaded loaded
        change R w (run (demo, w)).trace (run (demo, w)).state.2
        rw [ran]
        exact loads
      · have performs :=
          (permits_performance w.scripts.homes config).obeys joins each (demo.stage w₁)
        rcases performed : perform demo (demo.stage w₁) with ⟨answer, s, t⟩
        rw [performed] at performs
        have ran := run_of_perform loaded performed
        change R w (run (demo, w)).trace (run (demo, w)).state.2
        rw [ran]
        exact joins.join loads performs

/-- Whatever relation all basic steps of a run respect, a reel that is made and run respects. -/
theorem play_agrees {watch : Event → Bool} {R : World → World → Prop} {w v : World}
    (same : ∀ w v, R w v → w.scripts = v.scripts) (related : R w v)
    (each : ∀ (α : Type) (x : Act World α), (runLeave c model w.scripts.homes).Basic α x →
      Act.Matches watch R x x) :
    Alike watch R (play c model w) (play c model v) := by
  unfold play
  cases made : Demo.make c model none with
  | error fault => exact Act.matches_fail fault w v related
  | ok demo =>
      obtain ⟨config, isModel⟩ := make_config made
      rw [Act.ofExcept_ok_bind]
      apply Act.alike_withState
      have loads := (permits_loading w.scripts.homes config isModel).agrees same each w v related
      rw [← loadModel_eq, same w v related, ← loadModel_eq] at loads
      rcases loaded : loadModel demo w with ⟨answer, w₁, loading⟩
      rcases loaded' : loadModel demo v with ⟨answer', v₁, loading'⟩
      rw [loaded, loaded'] at loads
      obtain ⟨answers, worlds, looks⟩ := loads
      cases answers
      cases answer with
      | error fault =>
          rw [run_of_unloaded loaded, run_of_unloaded loaded']
          exact ⟨rfl, ⟨rfl, worlds⟩, looks⟩
      | ok _ =>
          have performs :=
            (permits_performance w.scripts.homes config).agrees same each (demo.stage w₁)
            (demo.stage v₁) ⟨rfl, rfl, rfl, rfl, worlds⟩
          rcases performed : perform demo (demo.stage w₁) with ⟨stats, s, t⟩
          rcases performed' : perform demo (demo.stage v₁) with ⟨stats', s', t'⟩
          rw [performed, performed'] at performs
          obtain ⟨results, stages, more⟩ := performs
          have kept : demo.keeping s = demo.keeping s' := by
            unfold Demo.keeping
            rw [show s.grabber = s'.grabber from stages.grabber,
              show s.preview = s'.preview from stages.preview,
              show s.rotation = s'.rotation from stages.rotation]
          rw [run_of_perform loaded performed, run_of_perform loaded' performed']
          refine ⟨results, ⟨kept, stages.world⟩, ?_⟩
          rw [List.filter_append, List.filter_append, looks, more]

end

end HatReel.Reel
