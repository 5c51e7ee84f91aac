import HatReel.Proofs.Files.Trails
import HatReel.Proofs.Rig.Steps
import HatReel.Rig.Logging

/-! Setting up a log.

Whether a log can be set up depends on the files only, and of these on the directories above the log
and on what stands in its place. Once it has been set up it can be set up again, and that changes
nothing more. -/

namespace HatReel.Files

def Path.logKey (p : Path) : Key := p.normalized.goal

namespace Store

/-- Makes the directories above a log, if there is to be one, and opens it, which makes the file.
What was made before a refusal stays. -/
def prepareLog (s : Store) : Option Path → Store × Option FileFault
  | none => (s, none)
  | some p =>
    match s.ensureDirectory p.parent with
    | (s, some fault) => (s, some fault)
    | (s, none) =>
      match s.openFile p.normalized with
      | .ok (key, content) => (s.put key (.file content), none)
      | .error fault => (s, some fault)

section

variable {s s' last : Store} {p : Path} {log : Option Path}

theorem prepareLog_some (prepared : s.prepareLog (some p) = (s', none)) :
    ∃ above content, s.ensureDirectory p.parent = (above, none) ∧
      above.openFile p.normalized = .ok (p.logKey, content) ∧
      s' = above.put p.logKey (.file content) := by
  rw [prepareLog] at prepared
  rcases ensured : s.ensureDirectory p.parent with ⟨above, _ | fault⟩ <;> rw [ensured] at prepared
  · simp only at prepared
    rcases opens : above.openFile p.normalized with fault | ⟨key, content⟩ <;>
      rw [opens] at prepared <;> cases prepared
    obtain ⟨rfl, -⟩ := openFile_goal opens
    exact ⟨above, content, rfl, opens, rfl⟩
  · cases prepared

theorem prepareLog_kept (prepared : s.prepareLog log = (s', none)) {key : Key} {node : Node}
    (found : s.node? key = some node) (apart : node = .directory ∨ key ∉ log.map Path.logKey) :
    s'.node? key = some node := by
  cases log with
  | none =>
      cases prepared
      exact found
  | some p =>
      obtain ⟨above, content, ensured, opens, rfl⟩ := prepareLog_some prepared
      have noDirectory := (openFile_goal opens).2
      have makes := ensureDirectory_makes s p.parent
      rw [ensured] at makes
      have stays := makes.kept found
      have different : key ≠ p.logKey := by
        rintro rfl
        rcases apart with rfl | apart
        · exact noDirectory stays
        · exact apart rfl
      rw [node?_put _ _ _ _ (below_of_file noDirectory), if_neg different, stays]

theorem prepareLog_keeps (prepared : s.prepareLog log = (s', none)) : Keeps s s' :=
  fun _ found => prepareLog_kept prepared found (.inl rfl)

theorem prepareLog_there (prepared : s.prepareLog log = (s', none)) :
    ∃ content, ∀ key ∈ log.map Path.logKey, s'.node? key = some (.file content) := by
  cases log with
  | none => exact ⟨[], fun _ never => nomatch never⟩
  | some p =>
      obtain ⟨above, content, -, opens, rfl⟩ := prepareLog_some prepared
      refine ⟨content, ?_⟩
      rintro _ ⟨⟩
      rw [node?_put _ _ _ _ (below_of_file (openFile_goal opens).2), if_pos rfl]

theorem isDirectory?_keeps (keeps : Keeps s s') (there : s.isDirectory? p = .ok true) :
    s'.isDirectory? p = .ok true := by
  obtain ⟨noNull, looked⟩ := look_of_isDirectory? there
  exact isDirectory?_of_look noNull
    (look_onto keeps looked (keeps _ (follow_node (look_ok looked))))

/-- A log that has been prepared can be prepared again, and then nothing changes, as long as the
directories and the log are still there. -/
theorem prepareLog_again (prepared : s.prepareLog log = (s', none)) (keeps : Keeps s' last)
    (there : ∀ key ∈ log.map Path.logKey, ∃ content, last.node? key = some (.file content)) :
    ∃ next, last.prepareLog log = (next, none) ∧ ∀ key, next.node? key = last.node? key := by
  cases log with
  | none => exact ⟨last, rfl, fun _ => rfl⟩
  | some p =>
      obtain ⟨above, old, ensured, opens, rfl⟩ := prepareLog_some prepared
      obtain ⟨content, found⟩ := there p.logKey rfl
      obtain ⟨noNull, node, placed, noDirectory⟩ := openFile_place opens
      have onto : Keeps above last :=
        (keeps_put (below_of_file (openFile_goal opens).2) (openFile_goal opens).2).trans keeps
      have ensuredAgain : last.ensureDirectory p.parent = (last, none) :=
        ensureDirectory_there (isDirectory?_keeps onto (ensureDirectory_isDirectory? ensured))
      have opensAgain : last.openFile p.normalized = .ok (p.logKey, content) := by
        unfold openFile
        rw [noNull, if_neg Bool.false_ne_true, place_of_look (look_of_place onto placed found)]
      refine ⟨last.put p.logKey (.file content), ?_, ?_⟩
      · rw [prepareLog, ensuredAgain]
        simp only [opensAgain]
      · intro key
        rw [node?_put _ _ _ _ (below_of_file (by rw [found]; exact nofun))]
        split
        · next same => rw [same, found]
        · rfl

end

end Store

end HatReel.Files

namespace HatReel.Rig

open HatReel.Files HatReel.Files.Store HatReel.Log

/-- The path of the log that a name stands for. An empty name means none. -/
def logPath? (file : Option String) : Option Path :=
  (file.filter fun name => !name.isEmpty).map Path.ofText

def logKey? (file : Option String) : Option Key := (logPath? file).map Path.logKey

def logSinks (key : Option Key) : List Sink :=
  .console :: key.toList.map fun key => .file (some key)

theorem mem_logSinks {file : Option Key} {key : Key} :
    .file (some key) ∈ logSinks file ↔ key ∈ file := by
  cases file <;> simp [logSinks, eq_comm]

def World.logging (w : World) (level : Int) (file : Option String) (s : Store) : World :=
  { w with files := s, journal := ⟨level, logSinks (logKey? file)⟩ }

/-- Setting up a log prepares it in the files, and messages go to it from then on. -/
theorem setUpLoggingAt_run (level : Int) (file : Option String) (w : World) :
    setUpLoggingAt level file w =
      match w.files.prepareLog (logPath? file) with
      | (s, none) => ⟨.ok (), w.logging level file s, []⟩
      | (s, some fault) =>
        ⟨.error (.file fault), { w with files := s, journal := ⟨level, [.console]⟩ }, []⟩ := by
  cases file with
  | none => rfl
  | some name =>
      unfold setUpLoggingAt World.logging logKey? logPath?
      cases empty : name.isEmpty with
      | true =>
          simp only [Option.filter_some, empty]
          rfl
      | false =>
          simp only [Option.filter_some, empty, Bool.not_false, if_true,
            Option.map_some, prepareLog]
          let begun : World := { w with journal := ⟨level, [.console]⟩ }
          have sets : setJournal level [.console] w = ⟨.ok (), begun, []⟩ := rfl
          rcases ensured : w.files.ensureDirectory (Path.ofText name).parent with ⟨above, _ | fault⟩
          · have makes : Rig.ensureDirectory (Path.ofText name).parent begun =
                ⟨.ok (), { begun with files := above }, []⟩ := by
              unfold Rig.ensureDirectory
              rw [ensured]
            rcases opens : above.openFile (Path.ofText name).normalized with fault | ⟨key, content⟩
            · have fails : openLog (Path.ofText name) { begun with files := above } =
                  ⟨.error (.file fault), { begun with files := above }, []⟩ := by
                unfold openLog
                simp only [opens]
              simp only [opens]
              exact Act.bind_run sets (Act.bind_run makes (Act.bind_of_error _ fails) rfl) rfl
            · have keeps : openLog (Path.ofText name) { begun with files := above } =
                  ⟨.ok key, { begun with files := above.put key (.file content) }, []⟩ := by
                unfold openLog
                simp only [opens]
              obtain ⟨rfl, -⟩ := openFile_goal opens
              simp only [opens]
              exact Act.bind_run sets (Act.bind_run makes (Act.bind_run keeps rfl rfl) rfl) rfl
          · have fails : Rig.ensureDirectory (Path.ofText name).parent begun =
                ⟨.error (.file fault), { begun with files := above }, []⟩ := by
              unfold Rig.ensureDirectory
              rw [ensured]
            exact Act.bind_run sets (Act.bind_of_error _ fails) rfl

theorem setUpLoggingAt_ok {level : Int} {file : Option String} {w ready : World} {t : List Event}
    (ran : setUpLoggingAt level file w = ⟨.ok (), ready, t⟩) :
    t = [] ∧ ∃ s, w.files.prepareLog (logPath? file) = (s, none) ∧
      ready = w.logging level file s := by
  rw [setUpLoggingAt_run] at ran
  rcases prepared : w.files.prepareLog (logPath? file) with ⟨s, _ | fault⟩ <;>
    rw [prepared] at ran <;> cases ran
  exact ⟨rfl, s, rfl, rfl⟩

theorem setUpLoggingAt_of {file : Option String} {w : World} {s : Store} (level : Int)
    (prepared : w.files.prepareLog (logPath? file) = (s, none)) :
    setUpLoggingAt level file w = ⟨.ok (), w.logging level file s, []⟩ := by
  rw [setUpLoggingAt_run, prepared]

end HatReel.Rig
