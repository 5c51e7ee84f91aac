import HatReel.Proofs.Rig.Spares

/-! Steps of fetching in two worlds that run in parallel.

Two worlds may differ in what they log and where, as long as they hold the same under the keys that
a step looks at, and log under none of them. Then the step does the same in both, to the devices and
to the files. -/

namespace HatReel.Rig

open HatReel.Files HatReel.Files.Store HatReel.Log

def Event.acts (e : Event) : Bool := e.device != .journal

/-- A relation between worlds that agree on some keys. Messages respect it, and so do changes of the
files that leave the other files alone. -/
structure Parallel (on : Key → Prop) (R : World → World → Prop) : Prop where
  responses : ∀ {w v}, R w v → v.scripts.responses = w.scripts.responses
  files : ∀ {w v}, R w v → Agree on w.files v.files
  unlogged : ∀ {w v key}, R w v → on key →
    .file (some key) ∉ w.journal.sinks ∧ .file (some key) ∉ v.journal.sinks
  logs : ∀ level logger message,
    Act.Matches Event.acts R (log level logger message) (log level logger message)
  respond : ∀ {w v}, R w v → ∀ left,
    R { w with scripts := { w.scripts with responses := left } }
      { v with scripts := { v.scripts with responses := left } }
  store : ∀ {w v s s'}, R w v → Agree on s s' →
    (∀ key, ¬on key → ∀ content, w.files.node? key = some (.file content) →
      s.node? key = some (.file content)) →
    (∀ key, ¬on key → ∀ content, v.files.node? key = some (.file content) →
      s'.node? key = some (.file content)) →
    R { w with files := s } { v with files := s' }

theorem kept_put {on : Key → Prop} {s : Store} {key : Key} (inside : on key)
    (below : ¬(key = [] ∨ key = here)) (node : Node) :
    ∀ other, ¬on other → ∀ content, s.node? other = some (.file content) →
      (s.put key node).node? other = some (.file content) := by
  intro other outside content found
  have different : other ≠ key := fun same => outside (same ▸ inside)
  rw [node?_put _ _ _ _ below, if_neg different, found]

theorem kept_remove {on : Key → Prop} {s : Store} {key : Key} (inside : on key)
    (below : ¬(key = [] ∨ key = here)) :
    ∀ other, ¬on other → ∀ content, s.node? other = some (.file content) →
      (s.remove key).node? other = some (.file content) := by
  intro other outside content found
  have different : other ≠ key := fun same => outside (same ▸ inside)
  rw [node?_remove _ _ _ below, if_neg different, found]

namespace Parallel

variable {on : Key → Prop} {R : World → World → Prop} (parallel : Parallel on R) {w v : World}
  (related : R w v)

include parallel related

theorem put {key : Key} (inside : on key) (noDirectory : w.files.node? key ≠ some .directory)
    (node : Node) :
    R { w with files := w.files.put key node } { v with files := v.files.put key node } :=
  have below := below_of_file noDirectory
  parallel.store related (like_put (parallel.files related) below rfl)
    (kept_put inside below node) (kept_put inside below node)

theorem remove {key : Key} (inside : on key) {content : List UInt8}
    (found : w.files.node? key = some (.file content)) :
    R { w with files := w.files.remove key } { v with files := v.files.remove key } :=
  have below := below_of_file (by rw [found]; exact nofun)
  parallel.store related (like_remove (parallel.files related) below) (kept_remove inside below)
    (kept_remove inside below)

end Parallel

namespace Parallel

variable {on : Key → Prop} {R : World → World → Prop} (parallel : Parallel on R) {p : Path}
  (inside : ∀ key ∈ p.trail, on key)

include parallel inside

theorem matches_ask {α : Type} {f : Store → Except FileFault α}
    (isLocal : ∀ s s', Agree (· ∈ p.trail) s s' → f s' = f s) :
    Act.Matches Event.acts R (askFiles f) (askFiles f) := by
  intro w v related
  have same := isLocal w.files v.files fun key member =>
    parallel.files related key (inside key member)
  unfold askFiles
  rw [same]
  split <;> exact ⟨rfl, related, rfl⟩

theorem matches_ensure : Act.Matches Event.acts R (ensureDirectory p) (ensureDirectory p) := by
  intro w v related
  have ensured := ensureDirectory_like (parallel.files related) tells_id inside
  have makes := ensureDirectory_makes w.files p
  have makes' := ensureDirectory_makes v.files p
  unfold ensureDirectory
  rcases made : w.files.ensureDirectory p with ⟨s, fault⟩
  rcases made' : v.files.ensureDirectory p with ⟨s', fault'⟩
  rw [made, made'] at ensured
  rw [made] at makes
  rw [made'] at makes'
  obtain ⟨agree, same⟩ := ensured
  have after := parallel.store related agree (fun _ _ _ found => makes.kept found)
    fun _ _ _ found => makes'.kept found
  cases same
  cases fault <;> exact ⟨rfl, after, rfl⟩

theorem matches_write (content : List UInt8) :
    Act.Matches Event.acts R (changeFiles fun s => s.write p content)
      (changeFiles fun s => s.write p content) := by
  intro w v related
  unfold changeFiles
  dsimp only
  rcases write_agree (parallel.files related) inside content with
    ⟨fault, fails, fails'⟩ | ⟨noDirectory, writes, writes'⟩
  · rw [fails, fails']
    exact ⟨rfl, related, rfl⟩
  · rw [writes, writes']
    exact ⟨rfl, parallel.put related (inside _ p.goal_mem_trail) noDirectory _, rfl⟩

theorem matches_unlink : Act.Matches Event.acts R (unlink p) (unlink p) := by
  intro w v related
  unfold Rig.unlink
  rcases unlink_agree (parallel.files related) inside with
    ⟨fault, fails, fails'⟩ | ⟨leaves, leaves'⟩ | ⟨⟨content, found⟩, removes, removes'⟩
  · rw [fails, fails']
    exact ⟨rfl, related, rfl⟩
  · rw [leaves, leaves']
    exact ⟨rfl, related, rfl⟩
  · have onGoal := inside _ p.goal_mem_trail
    obtain ⟨quiet, quiet'⟩ := parallel.unlogged related onGoal
    rw [removes, removes']
    dsimp only
    rw [moveFile_same quiet, moveFile_same quiet']
    exact ⟨rfl, parallel.remove related onGoal found, rfl⟩

theorem matches_replace {target : Path} (insideTarget : ∀ key ∈ target.trail, on key) :
    Act.Matches Event.acts R (replace p target) (replace p target) := by
  intro w v related
  unfold Rig.replace
  rcases replace_agree (parallel.files related) inside insideTarget with
    ⟨fault, fails, fails'⟩ | ⟨content, found, noDirectory, replaces, replaces'⟩
  · rw [fails, fails']
    exact ⟨rfl, related, rfl⟩
  · have onGoal := inside _ p.goal_mem_trail
    have onTarget := insideTarget _ target.goal_mem_trail
    obtain ⟨quiet, quiet'⟩ := parallel.unlogged related onGoal
    obtain ⟨quietTarget, quietTarget'⟩ := parallel.unlogged related onTarget
    have removed := parallel.remove related onGoal found
    have below : ¬(p.goal = [] ∨ p.goal = here) := below_of_file (by rw [found]; exact nofun)
    have free : (w.files.remove p.goal).node? target.goal ≠ some .directory := by
      rw [node?_remove _ _ _ below]
      split
      · exact nofun
      · exact noDirectory
    rw [replaces, replaces']
    dsimp only
    rw [moveFile_same quietTarget, moveFile_same quiet, moveFile_same quietTarget',
      moveFile_same quiet']
    exact ⟨rfl, parallel.put removed onTarget free _, rfl⟩

end Parallel

/-- A step of fetching that looks at some keys only respects a relation between worlds that agree on
them. -/
theorem Leave.Fetch.agrees {l : Leave} {on : Key → Prop} {R : World → World → Prop}
    (parallel : Parallel on R) (seen : ∀ key ∈ l.sees, on key) {α : Type} {x : Act World α}
    (is : l.Fetch α x) : Act.Matches Event.acts R x x := by
  have inside {p : Path} (own : ∀ key ∈ p.trail, key ∈ l.changes) : ∀ key ∈ p.trail, on key :=
    fun key member => seen key (l.inside key (own key member))
  cases is with
  | fail fault allowed => exact Act.matches_fail fault
  | log level logger message calm => exact parallel.logs level logger message
  | emit e loud => exact fun w v related => ⟨rfl, related, rfl⟩
  | respond f =>
      intro w v related
      dsimp only
      rw [parallel.responses related]
      exact ⟨rfl, parallel.respond related _, rfl⟩
  | ask f p isLocal own =>
      exact parallel.matches_ask (fun key member => seen key (own key member)) isLocal
  | ensure p own => exact parallel.matches_ensure (inside own)
  | write p content own => exact parallel.matches_write (inside own) content
  | unlink p own => exact parallel.matches_unlink (inside own)
  | replace p target own ownTarget => exact parallel.matches_replace (inside own) (inside ownTarget)

theorem Leave.Allows.agrees {l : Leave} {on : Key → Prop} {R : World → World → Prop}
    (parallel : Parallel on R) (seen : ∀ key ∈ l.sees, on key) {α : Type} {x : Act World α}
    (allows : l.Allows x) : Act.Matches Event.acts R x x :=
  Act.Built.agrees allows (fun _ _ _ => rfl) fun _ _ is => is.agrees parallel seen

/-- The same responses are to come in both worlds, and both hold the same on some keys and log under
none of them. What else they hold, and what is logged, may differ. -/
structure Twins (on : Key → Prop) (w v : World) : Prop where
  responses : v.scripts.responses = w.scripts.responses
  files : Agree on w.files v.files
  unlogged : ∀ {key}, on key → .file (some key) ∉ w.journal.sinks
  unloggedToo : ∀ {key}, on key → .file (some key) ∉ v.journal.sinks

theorem Twins.spared {on : Key → Prop} {w w' v v' : World} {t u : List Event} (twins : Twins on w v)
    (one : Spares [] w w') (logs : Logs w t w') (two : Spares [] v v') (logsToo : Logs v u v') :
    Twins on w' v' where
  responses := by rw [logs.scripts, logsToo.scripts, twins.responses]
  files key inside := by
    rw [two.untouched key List.not_mem_nil (twins.unloggedToo inside),
      one.untouched key List.not_mem_nil (twins.unlogged inside)]
    exact twins.files key inside
  unlogged inside logged := twins.unlogged inside (one.sinks _ List.not_mem_nil logged)
  unloggedToo inside logged := twins.unloggedToo inside (two.sinks _ List.not_mem_nil logged)

theorem Within.idles {t : List Event} (within : Within [.journal] t) :
    t.filter Event.acts = [] := by
  rw [List.filter_eq_nil_iff]
  intro e member
  simp [Event.acts, List.mem_singleton.mp (within e member)]

theorem twins_parallel (on : Key → Prop) : Parallel on (Twins on) where
  responses twins := twins.responses
  files twins := twins.files
  unlogged twins inside := ⟨twins.unlogged inside, twins.unloggedToo inside⟩
  logs := by
    intro level logger message w v twins
    have one := spares_log [] level logger message w
    have two := spares_log [] level logger message v
    obtain ⟨w', t, logged, logs⟩ := log_run level logger message w
    obtain ⟨v', u, loggedToo, logsToo⟩ := log_run level logger message v
    rw [logged] at one ⊢
    rw [loggedToo] at two ⊢
    refine ⟨rfl, twins.spared one logs two logsToo, ?_⟩
    rw [logs.within.idles, logsToo.within.idles]
  respond twins left := { twins with responses := rfl }
  store twins agree _ _ := { twins with files := agree }

end HatReel.Rig
