import HatReel.Model.Detector
import HatReel.Proofs.Rig.Events

/-! Resolving and loading a model uses the network, the files and the journal, and nothing else: of
the scripts it consumes the responses only. -/

namespace HatReel.Model

open HatReel.Decimal HatReel.Files HatReel.Log HatReel.Rig HatReel.Rig.Act

/-- No script but that of the responses has changed, and no camera, writer or window was used. -/
structure Fetches (w : World) (t : List Event) (w' : World) : Prop where
  scripts : ∃ responses, w'.scripts = { w.scripts with responses := responses }
  within : Within [.network, .model, .journal] t
  quiet : Quiet t

theorem Fetches.idle {w w' : World} {t : List Event} (fetches : Fetches w t w') : Idle t :=
  fetches.within.idle (by decide) (by decide) (by decide)

theorem fetches_joins : Joins Fetches where
  nothing w := ⟨⟨w.scripts.responses, rfl⟩, Within.nil, Quiet.nil⟩
  join := by
    intro w next last before after first second
    obtain ⟨one, oneIs⟩ := first.scripts
    obtain ⟨two, twoIs⟩ := second.scripts
    refine ⟨⟨two, ?_⟩, first.within.append second.within, first.quiet.append second.quiet⟩
    rw [twoIs, oneIs]

theorem Fetches.of_same {w w' : World} (same : w'.scripts = w.scripts) : Fetches w [] w' :=
  ⟨⟨w.scripts.responses, same⟩, Within.nil, Quiet.nil⟩

theorem fetches_log (level : Level) (logger message : String) :
    Obeys Fetches (log level logger message) :=
  obeys_mono (log_logs level logger message) fun w _ _ logs =>
    ⟨⟨w.scripts.responses, logs.scripts⟩, logs.within.mono (by decide), logs.quiet⟩

theorem fetches_emit {e : Event} (inside : e.device ∈ [.network, .model, .journal])
    (quiet : e.lifecycle? = none) : Obeys Fetches (emit e) :=
  fun w => ⟨⟨w.scripts.responses, rfl⟩, Within.single inside, Quiet.single quiet⟩

theorem fetches_ensureDirectory (p : Path) : Obeys Fetches (ensureDirectory p) := by
  intro w
  unfold ensureDirectory
  rcases w.files.ensureDirectory p with ⟨files, fault⟩
  cases fault <;> exact Fetches.of_same rfl

theorem fetches_changeFiles (f : Store → Except FileFault Store) :
    Obeys Fetches (changeFiles f) := by
  intro w
  unfold changeFiles
  cases f w.files <;> exact Fetches.of_same rfl

theorem fetches_askFiles {α : Type} (f : Store → Except FileFault α) :
    Obeys Fetches (askFiles f) := by
  intro w
  unfold askFiles
  cases f w.files <;> exact Fetches.of_same rfl

theorem fetches_unlink (p : Path) : Obeys Fetches (unlink p) := by
  intro w
  unfold unlink
  split <;> exact Fetches.of_same rfl

theorem fetches_replace (p target : Path) : Obeys Fetches (replace p target) := by
  intro w
  unfold replace
  split <;> exact Fetches.of_same rfl

theorem fetches_nextResponse : Obeys Fetches nextResponse :=
  fun _ => ⟨⟨_, rfl⟩, Within.nil, Quiet.nil⟩

theorem fetches_receive (url : String) (part : Path) (status : Int) (chunks : List String)
    (ending : Ending) : Obeys Fetches (receive url part status chunks ending) := by
  have body (finish : Act World Unit) (finished : Obeys Fetches finish) : Obeys Fetches (do
      changeFiles fun s => s.write part []
      emit (.httpIterate chunkSize)
      changeFiles fun s => s.write part (chunks.flatMap Text.utf8)
      finish) :=
    obeys_bind fetches_joins (fetches_changeFiles _) fun _ =>
      obeys_bind fetches_joins (fetches_emit (by simp [Event.device]) rfl) fun _ =>
        obeys_bind fetches_joins (fetches_changeFiles _) fun _ => finished
  unfold receive
  dsimp only
  split
  · refine obeys_bind fetches_joins (obeys_fail fetches_joins _) fun _ => body _ ?_
    cases ending <;> exact fetches_joins.nothing
  · apply body
    cases ending <;> exact fetches_joins.nothing

theorem fetches_request (url : String) (part : Path) (timeout : Number) :
    Obeys Fetches (request url part timeout) := by
  unfold request
  refine obeys_bind fetches_joins (fetches_emit (by simp [Event.device]) rfl) fun _ => ?_
  refine obeys_bind fetches_joins fetches_nextResponse fun response => ?_
  cases response with
  | refused reason => exact obeys_fail fetches_joins _
  | answered status chunks ending =>
      exact obeys_ensuring fetches_joins (fetches_receive url part status chunks ending)
        (fetches_emit (by simp [Event.device]) rfl)

theorem fetches_discard (part : Path) (fault : Fault) : Obeys Fetches (discard part fault) := by
  unfold discard
  split
  · exact obeys_bind fetches_joins (fetches_unlink _) fun _ => obeys_fail fetches_joins _
  · exact obeys_fail fetches_joins _

theorem fetches_download (url : String) (target : Path) (timeout : Number) :
    Obeys Fetches (download url target timeout) := by
  unfold download
  refine obeys_bind fetches_joins (fetches_ensureDirectory _) fun _ => ?_
  refine obeys_bind fetches_joins (fetches_log _ _ _) fun _ => ?_
  refine obeys_bind fetches_joins
    (obeys_recover fetches_joins (fetches_request _ _ _) (fetches_discard _)) fun _ => ?_
  refine obeys_bind fetches_joins (fetches_replace _ _) fun _ => ?_
  exact obeys_bind fetches_joins (fetches_log _ _ _) fun _ => obeys_pure fetches_joins _

theorem fetches_resolve (given : Option String) (cacheDir url : String) (timeout : Number) :
    Obeys Fetches (resolve given cacheDir url timeout) := by
  refine obeys_bind fetches_joins (obeys_get fetches_joins) fun w => ?_
  unfold resolveAt
  cases given with
  | some path => exact obeys_pure fetches_joins _
  | none =>
      refine obeys_bind fetches_joins (obeys_ofExcept fetches_joins _ _) fun cached => ?_
      refine obeys_bind fetches_joins (fetches_askFiles _) fun found => ?_
      cases found with
      | false => exact fetches_download url cached timeout
      | true =>
          exact obeys_bind fetches_joins (fetches_log _ _ _) fun _ => obeys_pure fetches_joins _

theorem fetches_load (path : Path) : Obeys Fetches (load path) := by
  have checked {c : Prop} [Decidable c] {fault : Fault} {x : Act World Unit}
      (rest : Obeys Fetches x) :
      Obeys Fetches (if c then (fail fault : Act World PUnit) >>= fun _ => x else x) := by
    split
    · exact obeys_bind fetches_joins (obeys_fail fetches_joins _) fun _ => rest
    · exact rest
  unfold load
  refine obeys_bind fetches_joins (fetches_askFiles _) fun found => ?_
  refine checked ?_
  refine obeys_bind fetches_joins (fetches_emit (by simp [Event.device]) rfl) fun _ => ?_
  refine obeys_bind fetches_joins (obeys_get fetches_joins) fun w => ?_
  dsimp only
  split
  · exact obeys_bind fetches_joins (obeys_fail fetches_joins _) fun _ =>
      checked (fetches_log _ _ _)
  · exact checked (fetches_log _ _ _)

end HatReel.Model
