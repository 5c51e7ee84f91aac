import HatReel.Proofs.Model.Found
import HatReel.Proofs.Reel.Beside
import HatReel.Proofs.Reel.Reach

/-! A reel that is given no model.

Its model is the one in the cache. If that is there, the reel hands it to the detector before it
uses any device, and the network is left alone; if it does not come into the cache, the reel ends
with that fault. -/

namespace HatReel.Reel

open HatReel.Camera HatReel.Files HatReel.Files.Store HatReel.Log HatReel.Model HatReel.Rig
  HatReel.Settings

variable {c : Config} {source : Source} {w w' : World} {fault : Fault} {t : List Event}

def cachedModelAt (homes : Homes) (c : Config) : Act World Path :=
  resolveAt homes none c.classifier.cacheDir c.classifier.url (.real c.classifier.timeout)

def cachedModel (c : Config) : Act World Path :=
  resolve none c.classifier.cacheDir c.classifier.url (.real c.classifier.timeout)

/-- A reel whose source is one is made, and runs as it does from its model on. -/
theorem play_made (normal : c.camera.source.normalize = .ok source) :
    ∃ demo, (∀ w, loadModel demo w = (cachedModel c >>= load) w) ∧
      ∀ w, play c none w =
        ⟨(run (demo, w)).answer, (run (demo, w)).state.2, (run (demo, w)).trace⟩ := by
  have made : Demo.make c none none = .ok (Demo.ofSource c none none source) :=
    make_iff.mpr ⟨source, normal, rfl⟩
  exact ⟨Demo.ofSource c none none source, fun w => rfl, play_run made⟩

/-- Without its model a reel ends with the fault of the model. -/
theorem play_unresolved (normal : c.camera.source.normalize = .ok source)
    (unresolved : cachedModel c w = ⟨.error fault, w', t⟩) :
    play c none w = ⟨.error fault, w', t⟩ := by
  obtain ⟨demo, loads, plays⟩ := play_made normal
  have unloaded := (loads w).trans (Act.bind_of_error load unresolved)
  rw [plays, run_of_unloaded unloaded]

/-- A model is handed to the detector after messages only, and from then on only devices of the
studio are used. -/
def HandsOver (model : Path) (t : List Event) : Prop :=
  ∃ told rest, t = told ++ .cascadeLoad model.text :: rest ∧ Within [.journal] told ∧
    Within studio rest

theorem HandsOver.before {model : Path} {t before : List Event} (hands : HandsOver model t)
    (within : Within [.journal] before) : HandsOver model (before ++ t) := by
  obtain ⟨told, rest, rfl, messages, indoors⟩ := hands
  exact ⟨before ++ told, rest, by simp, within.append messages, indoors⟩

theorem HandsOver.after {model : Path} {t after : List Event} (hands : HandsOver model t)
    (within : Within [.journal] after) : HandsOver model (t ++ after) := by
  obtain ⟨told, rest, rfl, messages, indoors⟩ := hands
  exact ⟨told, rest ++ after, by simp, messages, indoors.append (within.mono (by decide))⟩

theorem play_cached {model : Path} (normal : c.camera.source.normalize = .ok source)
    (placed : cachedPath c.classifier.url c.classifier.cacheDir w.scripts.homes = .ok model)
    (there : w.files.exists? model = .ok true) :
    (w.files.isFile? model = .ok false ∧ ∃ w' t,
        play c none w = ⟨.error (.modelMissing model.text), w', t⟩ ∧ Within [.journal] t) ∨
      HandsOver model (play c none w).trace := by
  obtain ⟨demo, loads, plays⟩ := play_made normal
  obtain ⟨w₁, told, resolved, logs, kinds⟩ :=
    resolve_cached (.real c.classifier.timeout) placed there
  have still : w₁.files.exists? model = .ok true :=
    (exists?_like kinds tells_isDirectory fun _ _ => trivial).trans there
  have same : w₁.files.isFile? model = w.files.isFile? model :=
    isFile?_like kinds tells_isDirectory fun _ _ => trivial
  rcases load_run still with ⟨noFile, fails⟩ | ⟨answer, w₂, t, loaded, within⟩
  · left
    have unloaded := (loads w).trans (Act.bind_run resolved fails rfl)
    refine ⟨same.symm.trans noFile, w₁, told ++ [], ?_, logs.within.append Within.nil⟩
    rw [plays, run_of_unloaded unloaded]
  · right
    have loading := (loads w).trans (Act.bind_run resolved loaded rfl)
    have messages : Within studio t := within.mono (by decide)
    rw [plays]
    cases answer with
    | error fault =>
        rw [run_of_unloaded loading]
        exact ⟨told, t, rfl, logs.within, messages⟩
    | ok _ =>
        have indoors := indoors_perform demo (demo.stage w₂)
        rcases performed : perform demo (demo.stage w₂) with ⟨answer, s, filming⟩
        rw [performed] at indoors
        rw [run_of_perform loading performed]
        exact ⟨told, t ++ filming, by simp, logs.within, messages.append indoors⟩

end HatReel.Reel
