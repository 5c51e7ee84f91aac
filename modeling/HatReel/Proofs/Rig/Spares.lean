import HatReel.Proofs.Model.Cache
import HatReel.Proofs.Rig.Leave

/-! What a step within its leave spares.

Outside of its leave a step changes nothing in the store, except that it adds lines to the files
that are logged to. It logs to no new file there. -/

namespace HatReel.Files.Store

def Extended (before after : Option Node) : Prop :=
  after = before ∨
    ∃ old more, before = some (.file old) ∧ after = some (.file (old ++ more))

theorem Extended.trans {first middle last : Option Node} (one : Extended first middle)
    (two : Extended middle last) : Extended first last := by
  rcases two with rfl | ⟨old, more, rfl, rfl⟩
  · exact one
  · rcases one with same | ⟨oldest, added, rfl, same⟩
    · exact .inr ⟨old, more, same.symm, rfl⟩
    · cases same
      exact .inr ⟨oldest, added ++ more, rfl, by rw [List.append_assoc]⟩

theorem extended_append (s : Store) (key other : Key) (content : List UInt8) :
    Extended (s.node? other) ((s.append key content).node? other) := by
  unfold append
  split
  · next old found =>
    rw [node?_put _ _ _ _ (below_of_file (by rw [found]; exact nofun))]
    by_cases same : other = key
    · rw [if_pos same, same]
      exact .inr ⟨old, content, found, rfl⟩
    · rw [if_neg same]
      exact .inl rfl
  · exact .inl rfl

end HatReel.Files.Store

namespace HatReel.Rig

open HatReel.Files HatReel.Files.Store HatReel.Log HatReel.Model

/-- Of the keys outside of the given ones those that are not logged to hold what they held, and
those that are logged to hold at least that. No log is written to a new one of them. -/
structure Spares (keys : List Key) (w w' : World) : Prop where
  untouched : ∀ key ∉ keys, .file (some key) ∉ w.journal.sinks →
    w'.files.node? key = w.files.node? key
  extended : ∀ key ∉ keys, Extended (w.files.node? key) (w'.files.node? key)
  sinks : ∀ key ∉ keys, .file (some key) ∈ w'.journal.sinks → .file (some key) ∈ w.journal.sinks

namespace Spares

variable {keys more : List Key} {w next last : World}

theorem refl (keys : List Key) (w : World) : Spares keys w w :=
  ⟨fun _ _ _ => rfl, fun _ _ => .inl rfl, fun _ _ logged => logged⟩

theorem trans (first : Spares keys w next) (second : Spares keys next last) :
    Spares keys w last where
  untouched := by
    intro key outside unlogged
    rw [second.untouched key outside fun logged => unlogged (first.sinks key outside logged)]
    exact first.untouched key outside unlogged
  extended key outside := (first.extended key outside).trans (second.extended key outside)
  sinks key outside logged := first.sinks key outside (second.sinks key outside logged)

theorem mono (spares : Spares keys w next) (wider : ∀ key ∈ keys, key ∈ more) :
    Spares more w next where
  untouched key outside := spares.untouched key fun inside => outside (wider key inside)
  extended key outside := spares.extended key fun inside => outside (wider key inside)
  sinks key outside := spares.sinks key fun inside => outside (wider key inside)

/-- What leaves the other keys and the journal alone is sparing. -/
theorem of_same (files : ∀ key ∉ keys, next.files.node? key = w.files.node? key)
    (journal : next.journal = w.journal) : Spares keys w next :=
  ⟨fun key outside _ => files key outside, fun key outside => .inl (files key outside),
    fun _ _ logged => journal ▸ logged⟩

theorem kinds (spares : Spares [] w next) : SameKinds w.files next.files := by
  intro key _
  rcases spares.extended key List.not_mem_nil with same | ⟨old, more, before, after⟩
  · rw [same]
  · rw [before, after]
    rfl

theorem put {key : Key} {node : Node} (own : key ∈ keys)
    (noDirectory : w.files.node? key ≠ some .directory) :
    Spares keys w { w with files := w.files.put key node } := by
  refine of_same (fun other outside => ?_) rfl
  have different : other ≠ key := fun same => outside (same ▸ own)
  rw [node?_put _ _ _ _ (below_of_file noDirectory), if_neg different]

end Spares

theorem spares_joins (keys : List Key) : Act.Joins fun w _ w' => Spares keys w w' where
  nothing := Spares.refl keys
  join first second := first.trans second

theorem writeLine_extended (w : World) (line : String) (sinks : List Sink) (key : Key) :
    Extended (w.files.node? key) ((w.writeLine line sinks).files.node? key) := by
  induction sinks generalizing w with
  | nil => exact .inl rfl
  | cons sink rest ih =>
      cases sink with
      | events => exact ih w
      | console => exact ih _
      | file file =>
          cases file with
          | none => exact ih w
          | some file => exact (extended_append w.files file key _).trans (ih _)

theorem spares_log (keys : List Key) (level : Level) (logger message : String) :
    Act.Obeys (fun w _ w' => Spares keys w w') (log level logger message) := by
  intro w
  obtain ⟨w', t, step, -, written, journal⟩ := log_written level logger message w
  have extended : ∀ key, Extended (w.files.node? key) (w'.files.node? key) := by
    intro key
    unfold log logAt at step
    split at step <;> cases step
    · exact writeLine_extended w _ _ key
    · exact .inl rfl
  rw [step]
  refine ⟨fun key _ unlogged => written.others key unlogged, fun key _ => extended key, ?_⟩
  intro key _ logged
  rwa [← journal]

/-- Moving files under given keys moves logs under given keys only. -/
theorem moveFile_sinks {keys : List Key} {old key : Key} {new : Option Key}
    (own : ∀ other ∈ new, other ∈ keys) (outside : key ∉ keys) (j : Journal)
    (logged : .file (some key) ∈ (j.moveFile old new).sinks) : .file (some key) ∈ j.sinks := by
  obtain ⟨sink, member, moved⟩ := List.mem_map.mp logged
  split at moved
  · cases new with
    | none => cases moved
    | some other =>
        cases moved
        exact absurd (own key rfl) outside
  · rwa [← moved]

section

variable {keys : List Key} {p : Path} (own : ∀ key ∈ p.trail, key ∈ keys)

include own

theorem spares_ensure : Act.Obeys (fun w _ w' => Spares keys w w') (ensureDirectory p) := by
  intro w
  have makes := ensureDirectory_makes w.files p
  unfold ensureDirectory
  rcases made : w.files.ensureDirectory p with ⟨files, _ | fault⟩ <;> rw [made] at makes <;>
    exact Spares.of_same
      (fun key outside => makes.outside fun inside => outside (own key inside)) rfl

theorem spares_write (content : List UInt8) :
    Act.Obeys (fun w _ w' => Spares keys w w') (changeFiles fun s => s.write p content) := by
  intro w
  unfold changeFiles
  split
  · next files written =>
    obtain ⟨noDirectory, rfl⟩ := write_goal written
    exact Spares.put (own _ p.goal_mem_trail) noDirectory
  · exact Spares.refl _ w

theorem spares_unlink : Act.Obeys (fun w _ w' => Spares keys w w') (unlink p) := by
  intro w
  have ownGoal := own _ p.goal_mem_trail
  unfold Rig.unlink
  split
  · next files removed =>
    rcases unlink_goal removed with ⟨-, rfl⟩ | ⟨never, -⟩
    · exact Spares.refl _ w
    · cases never
  · next files key removed =>
    rcases unlink_goal removed with ⟨never, -⟩ | ⟨same, rfl, content, found⟩
    · cases never
    · cases same
      have below := below_of_file (s := w.files) (by rw [found]; exact nofun)
      refine ⟨fun key outside _ => ?_, fun key outside => .inl ?_, fun key outside logged =>
        moveFile_sinks (by simp) outside _ logged⟩ <;>
      · have different : key ≠ p.goal := fun same => outside (same ▸ ownGoal)
        exact (node?_remove _ _ _ below).trans (if_neg different)
  · exact Spares.refl _ w

theorem spares_replace {target : Path} (ownTarget : ∀ key ∈ target.trail, key ∈ keys) :
    Act.Obeys (fun w _ w' => Spares keys w w') (replace p target) := by
  intro w
  have ownGoal := own _ p.goal_mem_trail
  have ownNew := ownTarget _ target.goal_mem_trail
  unfold Rig.replace
  split
  · next files old new replaced =>
    obtain ⟨content, found, noDirectory, rfl, rfl, rfl⟩ := replace_goal replaced
    have below := below_of_file (s := w.files) (by rw [found]; exact nofun)
    have same (key : Key) (outside : key ∉ keys) :
        ((w.files.remove p.goal).put target.goal (.file content)).node? key =
          w.files.node? key := by
      have notOld : key ≠ p.goal := fun same => outside (same ▸ ownGoal)
      have notNew : key ≠ target.goal := fun same => outside (same ▸ ownNew)
      rw [node?_put _ _ _ _ (below_of_file noDirectory), if_neg notNew,
        node?_remove _ _ _ below, if_neg notOld]
    refine ⟨fun key outside _ => same key outside, fun key outside => .inl (same key outside), ?_⟩
    intro key outside logged
    have before := moveFile_sinks (by rintro _ ⟨⟩; exact ownNew) outside _ logged
    exact moveFile_sinks (by simp) outside _ before
  · exact Spares.refl _ w

end

theorem Leave.Fetch.spares {l : Leave} {α : Type} {x : Act World α} (is : l.Fetch α x) :
    Act.Obeys (fun w _ w' => Spares l.changes w w') x := by
  cases is with
  | fail fault allowed => exact fun w => Spares.refl _ w
  | log level logger message calm => exact spares_log _ level logger message
  | emit e loud => exact fun w => Spares.refl _ w
  | respond f => exact fun w => Spares.of_same (fun _ _ => rfl) rfl
  | ask f p isLocal seen =>
      intro w
      unfold askFiles
      split <;> exact Spares.refl _ w
  | ensure p own => exact spares_ensure own
  | write p content own => exact spares_write own content
  | unlink p own => exact spares_unlink own
  | replace p target own ownTarget => exact spares_replace own ownTarget

theorem Leave.Basic.spares {l : Leave} {α : Type} {x : Act World α} (is : l.Basic α x) :
    Act.Obeys (fun w _ w' => Spares l.changes w w') x := by
  cases is with
  | fetch is => exact is.spares
  | take f => exact fun w => Spares.of_same (fun _ _ => rfl) rfl

theorem Leave.Permits.spares {l : Leave} {α : Type} {x : Act World α} (permits : l.Permits x) :
    Act.Obeys (fun w _ w' => Spares l.changes w w') x :=
  permits.obeys (spares_joins l.changes) fun _ _ is => is.spares

theorem keeps_joins : Act.Joins fun (w : World) _ w' => Keeps w.files w'.files where
  nothing _ _ found := found
  join first second := first.trans second

/-- A step of fetching leaves all directories where they are. -/
theorem Leave.Fetch.keeps {l : Leave} {α : Type} {x : Act World α} (is : l.Fetch α x) :
    Act.Obeys (fun w _ w' => Keeps w.files w'.files) x := by
  intro w
  cases is with
  | fail fault allowed => exact keeps_joins.nothing w
  | log level logger message calm =>
      obtain ⟨w', t, step, -, written, -⟩ := log_written level logger message w
      rw [step]
      exact written.keeps
  | emit e loud => exact keeps_joins.nothing w
  | respond f => exact keeps_joins.nothing w
  | ask f p isLocal seen =>
      unfold askFiles
      split <;> exact keeps_joins.nothing w
  | ensure p own =>
      have makes := ensureDirectory_makes w.files p
      unfold ensureDirectory
      rcases made : w.files.ensureDirectory p with ⟨files, _ | fault⟩ <;> rw [made] at makes <;>
        exact makes.keeps
  | write p content own =>
      unfold changeFiles
      split
      · next files written =>
        obtain ⟨noDirectory, rfl⟩ := write_goal written
        exact keeps_put (below_of_file noDirectory) noDirectory
      · exact keeps_joins.nothing w
  | unlink p own =>
      unfold Rig.unlink
      split
      · next files removed =>
        rcases unlink_goal removed with ⟨-, rfl⟩ | ⟨never, -⟩
        · exact keeps_joins.nothing w
        · cases never
      · next files key removed =>
        rcases unlink_goal removed with ⟨never, -⟩ | ⟨-, rfl, content, found⟩
        · cases never
        · have isFile : w.files.node? p.goal ≠ some .directory := by rw [found]; exact nofun
          exact keeps_remove (below_of_file isFile) isFile
      · exact keeps_joins.nothing w
  | replace p target own ownTarget =>
      unfold Rig.replace
      split
      · next files old new replaced => exact replace_keeps replaced
      · exact keeps_joins.nothing w

theorem Leave.Allows.keeps {l : Leave} {α : Type} {x : Act World α} (allows : l.Allows x) :
    Act.Obeys (fun w _ w' => Keeps w.files w'.files) x :=
  allows.obeys keeps_joins fun _ _ is => is.keeps

end HatReel.Rig
