import HatReel.Proofs.Command.Closing
import HatReel.Proofs.Command.Refusal

/-! How the program ends with a run.

A command line that is refused ends with two, and nothing is done. Otherwise the program does what
the reel does, and it ends with zero, with one, or with a fault that it passes on, as the reel
returns, fails in a foreseen way, or fails in another. -/

namespace HatReel.Command

open HatReel.Files HatReel.Files.Store HatReel.Log HatReel.Reel HatReel.Rig HatReel.Settings

structure Answers (answer : Except Fault Stats) (ended : Ended) : Prop where
  returned : ended.exitCode = 0 ↔ ∃ stats, answer = .ok stats
  foreseen : ended.exitCode = 1 ∧ ended.failure.isNone = true ↔
    ∃ fault, answer = .error fault ∧ fault.isForeseen = true
  passedOn : ∀ failure, ended.failure = some failure ↔
    ∃ fault, failure = .step fault ∧ answer = .error fault ∧ fault.isForeseen = false

theorem ending_answers {x : Act World Nat} {w : World} {answer : Except Fault Stats}
    (exits : (x w).answer = exitOf answer) : Answers answer (ending x w) := by
  unfold ending
  rcases ran : x w with ⟨exit, last, t⟩
  rw [ran] at exits
  change exit = exitOf answer at exits
  subst exits
  cases answer with
  | ok stats =>
      refine ⟨?_, ?_, ?_⟩ <;> simp [exitOf]
  | error fault =>
      cases foreseen : fault.isForeseen with
      | true => refine ⟨?_, ?_, ?_⟩ <;> simp [exitOf, foreseen]
      | false =>
          refine ⟨?_, ?_, ?_⟩
          · simp [exitOf, foreseen]
          · simp [exitOf, foreseen]
          · intro failure
            rw [exitOf, if_neg (by simp [foreseen])]
            constructor
            · rintro ⟨⟩
              exact ⟨fault, rfl, rfl, foreseen⟩
            · rintro ⟨other, rfl, same, -⟩
              cases same
              rfl

/-- A run that has begun does not end as a command line does that is refused. -/
theorem record_exits {c : Config} {model : Option String} {w : World} {n : Nat}
    (ran : (record c model w).answer = .ok n) : n ≠ 2 := by
  rcases sets : setUp c w with ⟨fault | ⟨⟩, ready, t₀⟩
  · rw [record_eq, Act.bind_of_error _ sets] at ran
    cases ran
  · obtain ⟨w₁, t₁, tells, -⟩ := logRuntime_run loggerName ready
    rcases plays : play c model w₁ with ⟨answer, w₂, t₂⟩
    rw [record_run sets tells plays] at ran
    have exits := (close_exit answer w₂).symm.trans ran
    rintro rfl
    cases answer with
    | ok stats => cases exits
    | error fault =>
        rw [exitOf] at exits
        split at exits <;> cases exits

theorem ending_exits {x : Act World Nat} {w : World} (never : ∀ n, (x w).answer = .ok n → n ≠ 2) :
    (ending x w).exitCode ≠ 2 := by
  unfold ending
  rcases ran : x w with ⟨fault | n, last, t⟩
  · simp
  · exact never n (by rw [ran])

theorem ending_leaves (x : Act World Nat) (w : World) :
    (ending x w).trace = (x w).trace ∧ (ending x w).world = (x w).state := by
  unfold ending
  rcases x w with ⟨fault | n, last, t⟩ <;> exact ⟨rfl, rfl⟩

theorem accepted_exits {line : List String} {reading : Reading} {w : World}
    (reads : runGrammar.read line = .ok reading) : (start ("run" :: line) w).exitCode ≠ 2 := by
  rw [start_run]
  cases reading with
  | help => simp [onLine, reads, showing]
  | version => simp [onLine, reads, showing]
  | given values others =>
      simp only [onLine, reads]
      unfold withConfig
      split
      · simp
      · exact ending_exits fun _ => record_exits

/-- A run of the program. A command line that is refused changes nothing; one that is accepted, with
settings that load and a log apart from the ways of the run, does what the reel does in a world
beside, and ends as the reel does. -/
theorem start_outcome (line : List String) (w : World) :
    ((start ("run" :: line) w).exitCode = 2 ↔ ∃ fault, runGrammar.read line = .error fault) ∧
    (∀ fault, runGrammar.read line = .error fault → Refused fault ∧
      (start ("run" :: line) w).trace = [] ∧ ∃ text,
        (start ("run" :: line) w).world = { w with console := w.console ++ text }) ∧
    ∀ (values : Values) (others : List String) (c : Config) (ready : World) (t : List Event)
      (s : Store),
      runGrammar.read line = .ok (.given values others) →
      load w.files (values.text? "--config") = .ok c →
      setUp (values.apply c) w = ⟨.ok (), ready, t⟩ →
      (∀ key ∈ ways (values.apply c) others.head? w.scripts.homes,
        .file (some key) ∉ ready.journal.sinks) →
      Agree (· ∈ ways (values.apply c) others.head? w.scripts.homes) ready.files s →
      Recorded (values.apply c) others.head? ready (rehearsal (values.apply c) w.scripts s)
          (start ("run" :: line) w).trace (start ("run" :: line) w).world ∧
        Answers (play (values.apply c) others.head? (rehearsal (values.apply c) w.scripts s)).answer
          (start ("run" :: line) w) := by
  refine ⟨⟨?_, ?_⟩, ?_, ?_⟩
  · intro two
    cases reads : runGrammar.read line with
    | error fault => exact ⟨fault, rfl⟩
    | ok reading => exact absurd two (accepted_exits reads)
  · rintro ⟨fault, refuses⟩
    rw [start_run, onLine, refuses]
    rfl
  · intro fault refuses
    refine ⟨read_refused refuses, ?_⟩
    rw [start_run, onLine, refuses]
    exact ⟨rfl, _, rfl⟩
  · intro values others c ready t s reads loads sets apart agree
    obtain ⟨exits, recorded⟩ := record_recorded sets apart agree
    obtain ⟨trace, world⟩ := ending_leaves (record (values.apply c) others.head?) w
    have ended : start ("run" :: line) w = ending (record (values.apply c) others.head?) w := by
      rw [start_run]
      simp only [onLine, reads, withConfig, loads]
    rw [ended, trace, world]
    exact ⟨recorded, ending_answers exits⟩

def loggedWorld : World :=
  { blackWorld 1 with
    files := ⟨[(["", "m.xml"], .file []),
      (["", "c.yaml"], .file (Text.utf8 "logging:\n  file: run.log\n"))]⟩ }

def loggedLine : List String := ["--config", "c.yaml", "m.xml"]

def loggedValues : Values := [("--config", .text "c.yaml")]

def loggedConfig : Config := (load loggedWorld.files (some "c.yaml")).toOption.getD {}

theorem start_outcome_logged :
    runGrammar.read loggedLine = .ok (.given loggedValues ["m.xml"]) ∧
      load loggedWorld.files (some "c.yaml") = .ok loggedConfig ∧
      loggedConfig.logging.file = some "run.log" ∧
      ∃ ready t, setUp (loggedValues.apply loggedConfig) loggedWorld = ⟨.ok (), ready, t⟩ ∧
        (∀ key ∈ ways (loggedValues.apply loggedConfig) (some "m.xml") loggedWorld.scripts.homes,
          .file (some key) ∉ ready.journal.sinks) ∧
        ready.journal.sinks = [.console, .file (some ["", "run.log"])] ∧
        Recorded (loggedValues.apply loggedConfig) (some "m.xml") ready
          (rehearsal (loggedValues.apply loggedConfig) loggedWorld.scripts ready.files)
          (start ("run" :: loggedLine) loggedWorld).trace
          (start ("run" :: loggedLine) loggedWorld).world := by
  have reads : runGrammar.read loggedLine = .ok (.given loggedValues ["m.xml"]) := by decide +kernel
  have loads : load loggedWorld.files (some "c.yaml") = .ok loggedConfig := by
    have works : (load loggedWorld.files (some "c.yaml")).toOption.isSome = true := by
      decide +kernel
    unfold loggedConfig
    generalize load loggedWorld.files (some "c.yaml") = loaded at works
    cases loaded with
    | error fault => cases works
    | ok c => rfl
  have sets : setUp (loggedValues.apply loggedConfig) loggedWorld =
      ⟨.ok (), (setUp (loggedValues.apply loggedConfig) loggedWorld).state,
        (setUp (loggedValues.apply loggedConfig) loggedWorld).trace⟩ := by
    have works : (setUp (loggedValues.apply loggedConfig) loggedWorld).answer.toOption.isSome =
        true := by decide +kernel
    generalize setUp (loggedValues.apply loggedConfig) loggedWorld = ran at works
    rcases ran with ⟨fault | ⟨⟩, ready, t⟩
    · cases works
    · rfl
  have apart : ∀ key ∈ ways (loggedValues.apply loggedConfig) (some "m.xml")
        loggedWorld.scripts.homes,
      .file (some key) ∉
        (setUp (loggedValues.apply loggedConfig) loggedWorld).state.journal.sinks := by
    decide +kernel
  exact ⟨reads, loads, by decide +kernel, _, _, sets, apart, by decide +kernel,
    ((start_outcome loggedLine loggedWorld).2.2 loggedValues ["m.xml"] loggedConfig _ _ _ reads
      loads sets apart (Like.refl _)).1⟩

end HatReel.Command
