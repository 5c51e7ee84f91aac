import HatReel.Command.Program
import HatReel.Proofs.Reel.Beside
import HatReel.Proofs.Rig.Logging

/-! How a run of the program ends.

The program sets up logging, says what it runs on, and makes and runs a reel. From there on it is
the same as the reel in a world beside it in which everybody listens; what the program adds is a
message about a foreseen fault, and its last words. -/

namespace HatReel.Command

open HatReel.Files HatReel.Files.Store HatReel.Log HatReel.Reel HatReel.Rig HatReel.Settings
  HatReel.Text

def complaint : Except Fault Stats → List Event
  | .ok _ => []
  | .error fault =>
    if fault.isForeseen then [.log Level.error.name loggerName fault.message] else []

def farewell : Except Fault Stats → String
  | .ok stats => s!"✅ Recorded {stats.frames} frames to {stats.output.text}\n"
  | .error fault => if fault.isForeseen then s!"Error: {fault.message}\n" else ""

def exitOf : Except Fault Stats → Except Fault Nat
  | .ok _ => .ok 0
  | .error fault => if fault.isForeseen then .ok 1 else .error fault

def close : Except Fault Stats → Act World Nat
  | .ok stats => do
    say s!"✅ Recorded {stats.frames} frames to {stats.output.text}"
    return 0
  | .error fault => do
    logFault fault
    report fault

theorem record_eq (c : Config) (model : Option String) :
    record c model = (do
      setUp c
      logRuntime loggerName
      .recover
        (do
          let stats ← play c model
          say s!"✅ Recorded {stats.frames} frames to {stats.output.text}"
          return 0)
        fun fault => do
          logFault fault
          report fault) := rfl

/-- The program sets up its log, tells what it runs on, plays its reel, and closes. -/
theorem record_run {c : Config} {model : Option String} {w ready w₁ w₂ : World}
    {answer : Except Fault Stats} {t₀ t₁ t₂ : List Event} (sets : setUp c w = ⟨.ok (), ready, t₀⟩)
    (tells : logRuntime loggerName ready = ⟨.ok (), w₁, t₁⟩)
    (plays : play c model w₁ = ⟨answer, w₂, t₂⟩) :
    record c model w = (close answer w₂).after (t₀ ++ (t₁ ++ t₂)) := by
  rw [record_eq, Act.bind_of_ok _ sets, Act.bind_of_ok _ tells]
  cases answer with
  | ok stats =>
      have said : close (.ok stats) w₂ = ⟨.ok 0, _, []⟩ := rfl
      rw [Act.recover_ok _ (Act.bind_run plays said rfl)]
      simp [Ran.after, said]
  | error fault =>
      rcases closed : close (.error fault) w₂ with ⟨result, last, t⟩
      rw [Act.recover_error (Act.bind_of_error _ plays) closed]
      simp [Ran.after]

def Ended.after (e : Ended) (before : List Event) : Ended := { e with trace := before ++ e.trace }

theorem ending_after {x : Act World Nat} {y : Act World Nat} {w w' : World} {before : List Event}
    (same : x w = (y w').after before) : ending x w = (ending y w').after before := by
  unfold ending
  rw [same]
  rcases y w' with ⟨fault | n, last, t⟩ <;> rfl

/-- The program runs a reel with these settings and this model, and ends so: unless the log cannot
be set up, it tells what it runs on, makes the reel, runs it once, and closes on its answer. -/
inductive RunsReel (c : Config) (model : Option String) (w : World) : Ended → Prop where
  | unlogged {ready : World} {fault : Fault} {t : List Event}
      (sets : setUp c w = ⟨.error fault, ready, t⟩) :
      RunsReel c model w
        { exitCode := 1, failure := some (.step fault), world := ready, trace := t }
  | unmade {ready w₁ : World} {fault : Fault} {t₁ : List Event}
      (sets : setUp c w = ⟨.ok (), ready, []⟩)
      (tells : logRuntime loggerName ready = ⟨.ok (), w₁, t₁⟩)
      (unmade : Demo.make c model none = .error fault) :
      RunsReel c model w ((ending (close (.error fault)) w₁).after t₁)
  | ran {ready w₁ w₂ : World} {demo demo' : Demo} {answer : Except Fault Stats}
      {t₁ t₂ : List Event} (sets : setUp c w = ⟨.ok (), ready, []⟩)
      (tells : logRuntime loggerName ready = ⟨.ok (), w₁, t₁⟩)
      (made : Demo.make c model none = .ok demo)
      (ran : run (demo, w₁) = ⟨answer, (demo', w₂), t₂⟩) :
      RunsReel c model w ((ending (close answer) w₂).after (t₁ ++ t₂))

def errorText (fault : Fault) : String := s!"Error: {fault.message}\n"

theorem report_foreseen {fault : Fault} (foreseen : fault.isForeseen = true) (w : World) :
    report fault w = ⟨.ok 1, { w with console := w.console ++ errorText fault }, []⟩ := by
  have words : w.console ++ s!"Error: {fault.message}" ++ "\n" = w.console ++ errorText fault := by
    rw [String.append_assoc]
    rfl
  rw [← words, report, if_pos foreseen]
  rfl

theorem close_foreseen {fault : Fault} {w w' : World} {t : List Event}
    (foreseen : fault.isForeseen = true)
    (logged : log .error loggerName fault.message w = ⟨.ok (), w', t⟩) :
    close (.error fault) w = ⟨.ok 1, { w' with console := w'.console ++ errorText fault }, t⟩ := by
  rw [close, logFault, if_pos foreseen]
  exact Act.bind_run logged (report_foreseen foreseen w') (List.append_nil t).symm

theorem close_unforeseen {fault : Fault} (unforeseen : fault.isForeseen = false) (w : World) :
    close (.error fault) w = ⟨.error fault, w, []⟩ := by
  have notForeseen : ¬fault.isForeseen = true := by simp [unforeseen]
  rw [close, logFault, report, if_neg notForeseen, if_neg notForeseen]
  rfl

theorem close_exit (answer : Except Fault Stats) (w : World) :
    (close answer w).answer = exitOf answer := by
  cases answer with
  | ok stats => rfl
  | error fault =>
      cases foreseen : fault.isForeseen with
      | true =>
          obtain ⟨w', t, logged, -⟩ := log_run .error loggerName fault.message w
          rw [close_foreseen foreseen logged, exitOf, if_pos foreseen]
      | false =>
          rw [close_unforeseen foreseen, exitOf, if_neg (by simp [foreseen])]

theorem setUp_ok {c : Config} {w ready : World} {t : List Event}
    (ran : setUp c w = ⟨.ok (), ready, t⟩) :
    t = [] ∧ ∃ s, w.files.prepareLog (logPath? c.logging.file) = (s, none) ∧
      ready = w.logging c.logging.level.number c.logging.file s := setUpLoggingAt_ok ran

theorem permits_logRuntime {l : Leave} (logger : String) : l.Permits (logRuntime logger) := by
  apply Act.Built.look
  · intro w v same
    rw [same]
  · intro w
    apply Act.Built.bind (Leave.permits_log _ _ _ (by decide))
    intro _
    apply Act.Built.bind (Leave.permits_log _ _ _ (by decide))
    intro _
    exact Leave.permits_log _ _ _ (by decide)

theorem logRuntime_run (logger : String) (w : World) :
    ∃ w' t, logRuntime logger w = ⟨.ok (), w', t⟩ ∧ Logs w t w' := by
  obtain ⟨w₁, t₁, first, logs₁⟩ := log_run .info logger "OpenCV <opencv>, numpy <numpy>" w
  obtain ⟨w₂, t₂, second, logs₂⟩ := log_run .info logger ("Video backends: " ++
    if (", ".intercalate w.scripts.backends).isEmpty then "none"
    else ", ".intercalate w.scripts.backends) w₁
  obtain ⟨w₃, t₃, third, logs₃⟩ := log_run .debug logger w.scripts.buildInfo w₂
  refine ⟨w₃, t₁ ++ (t₂ ++ t₃), ?_, ?_, ?_⟩
  · unfold logRuntime
    rw [Act.get_bind]
    exact Act.bind_run first (Act.bind_run second third rfl) rfl
  · rw [logs₃.scripts, logs₂.scripts, logs₁.scripts]
  · exact logs₁.within.append (logs₂.within.append logs₃.within)

theorem record_runs (c : Config) (model : Option String) (w : World) :
    RunsReel c model w (ending (record c model) w) := by
  rcases sets : setUp c w with ⟨fault | ⟨⟩, ready, t₀⟩
  · have ended : ending (record c model) w =
        { exitCode := 1, failure := some (.step fault), world := ready, trace := t₀ } := by
      unfold ending
      rw [record_eq, Act.bind_of_error _ sets]
    rw [ended]
    exact .unlogged sets
  obtain ⟨rfl, -⟩ := setUp_ok sets
  obtain ⟨w₁, t₁, tells, -⟩ := logRuntime_run loggerName ready
  cases made : Demo.make c model none with
  | error fault =>
      have ended := ending_after (record_run sets tells (play_unmade made w₁))
      rw [List.nil_append, List.append_nil] at ended
      rw [ended]
      exact .unmade sets tells made
  | ok demo =>
      rcases ran : run (demo, w₁) with ⟨answer, ⟨demo', w₂⟩, t₂⟩
      have plays := play_run made w₁
      rw [ran] at plays
      rw [ending_after (record_run sets tells plays), List.nil_append]
      exact .ran sets tells made ran

theorem error_passes (l : Level) {j : Journal} (level : j.level = l.number) :
    (isMember loggerName && j.passes Level.error.number) = true := by
  have family : isMember loggerName = true := by decide +kernel
  unfold Journal.passes
  rw [level, family]
  cases l <;> decide

section

variable {on : Key → Prop} {file : Option Key} {said : String} {held : List UInt8} {w v : World}

/-- What the program leaves of a world, when it closes, beside a world that listened to the reel. -/
structure Closed (on : Key → Prop) (file : Option Key) (said : String) (held : List UInt8)
    (answer : Except Fault Stats) (v : World) (r : Ran World Nat) : Prop where
  exit : r.answer = exitOf answer
  idle : r.trace.filter Event.acts = []
  files : Agree on r.state.files v.files
  console : r.state.console = said ++ v.console ++ logText (complaint answer) ++ farewell answer
  written : ∀ key ∈ file, r.state.files.node? key =
    some (.file (held ++ utf8 (v.console ++ logText (complaint answer))))

theorem closed_said {answer : Except Fault Stats} {v' : World} {exit : Except Fault Nat}
    (beside : Beside on file said held w v') (files : v'.files = v.files)
    (console : v'.console = v.console ++ logText (complaint answer))
    (isExit : exit = exitOf answer) :
    Closed on file said held answer v
      ⟨exit, { w with console := w.console ++ farewell answer }, []⟩ where
  exit := isExit
  idle := rfl
  files := files ▸ beside.files
  console := by
    change w.console ++ farewell answer = _
    rw [beside.console, console, String.append_assoc, String.append_assoc, String.append_assoc,
      String.append_assoc]
  written key inside := by
    rw [← console]
    exact beside.written key inside

theorem logFault_run {c : Config} {fault : Fault} (apart : ∀ key ∈ file, ¬on key)
    (beside : Beside on file said held w v) (level : v.journal.level = c.logging.level.number)
    (foreseen : fault.isForeseen = true) :
    ∃ w' v', logFault fault w = ⟨.ok (), w', []⟩ ∧ Beside on file said held w' v' ∧
      v'.files = v.files ∧ v'.console = v.console ++ logText (complaint (.error fault)) := by
  have passes := error_passes c.logging.level (beside.level.symm.trans level)
  have silent : w.journal.sinks.contains .events = false := by
    rw [beside.sinks]
    cases file <;> rfl
  let line := Log.line (levelName Level.error.number) loggerName fault.message
  refine ⟨w.writeLine line w.journal.sinks, v.writeLine line v.journal.sinks, ?_,
    beside.line apart line, ?_, ?_⟩
  · rw [logFault, if_pos foreseen]
    unfold log logAt
    simp only [passes, silent, if_true, Bool.false_eq_true, if_false, line]
  · rw [show v.journal.sinks = [.events, .console] from beside.listening]
    rfl
  · rw [show v.journal.sinks = [.events, .console] from beside.listening, complaint,
      if_pos foreseen, logText_single]
    rfl

theorem close_closed {c : Config} (apart : ∀ key ∈ file, ¬on key)
    (beside : Beside on file said held w v) (level : v.journal.level = c.logging.level.number)
    (answer : Except Fault Stats) : Closed on file said held answer v (close answer w) := by
  cases answer with
  | ok stats =>
      have words :
          w.console ++ s!"✅ Recorded {stats.frames} frames to {stats.output.text}" ++ "\n" =
            w.console ++ farewell (.ok stats) := by
        rw [farewell, String.append_assoc]
        rfl
      have closed : Closed on file said held (.ok stats) v ⟨.ok 0, _, []⟩ :=
        closed_said beside rfl (String.append_empty).symm rfl
      rw [← words] at closed
      exact closed
  | error fault =>
      cases foreseen : fault.isForeseen with
      | true =>
          obtain ⟨w', v', logged, after, files, console⟩ := logFault_run apart beside level foreseen
          have reported : report fault w' =
              ⟨.ok 1, { w' with console := w'.console ++ farewell (.error fault) }, []⟩ := by
            rw [report_foreseen foreseen, farewell, if_pos foreseen]
            rfl
          have closed : close (.error fault) w = _ := Act.bind_run logged reported rfl
          rw [closed]
          exact closed_said after files console (by rw [exitOf, if_pos foreseen])
      | false =>
          have unforeseen : ¬fault.isForeseen = true := by simp [foreseen]
          have silent : complaint (.error fault) = [] := if_neg unforeseen
          have closed : close (.error fault) w =
              ⟨.error fault, { w with console := w.console ++ farewell (.error fault) }, []⟩ := by
            rw [farewell, if_neg unforeseen, String.append_empty]
            exact close_unforeseen foreseen w
          rw [closed]
          refine closed_said beside rfl ?_ ?_
          · rw [silent, logText_nil, String.append_empty]
          · rw [exitOf, if_neg unforeseen]

end

/-- A world beside that of a run: messages of the level of the settings are events and go to the
console, on which nothing has been written yet. -/
def rehearsal (c : Config) (scripts : Scripts) (files : Store) : World where
  scripts := scripts
  files := files
  journal := ⟨c.logging.level.number, [.events, .console]⟩

/-- The messages of a run among its events: what it runs on, those of its reel, and that about a
foreseen fault. -/
def told (c : Config) (model : Option String) (v : World) : List Event :=
  (logRuntime loggerName v).trace ++ (play c model v).trace ++ complaint (play c model v).answer

/-- What a run leaves from the time on at which logging has been set up, beside a reel that is made
with the same settings and run. -/
structure Recorded (c : Config) (model : Option String) (ready v : World) (t : List Event)
    (last : World) : Prop where
  /-- The devices and the network are used as by the reel. -/
  acts : t.filter Event.acts = (play c model v).trace.filter Event.acts
  /-- Apart from the log, what was the same is the same afterwards. -/
  files : ∀ key, .file (some key) ∉ ready.journal.sinks →
    ready.files.node? key = v.files.node? key →
    last.files.node? key = (play c model v).state.files.node? key
  /-- The messages and the last words come to the console. -/
  console : last.console =
    ready.console ++ logText (told c model v) ++ farewell (play c model v).answer
  /-- The messages are added to the log. -/
  written : ∀ key, .file (some key) ∈ ready.journal.sinks →
    ∃ content, ready.files.node? key = some (.file content) ∧
      last.files.node? key = some (.file (content ++ utf8 (logText (told c model v))))
  /-- One message reports an error if a foreseen fault ends the run, and none otherwise. -/
  once : (told c model v).filter Event.isError = complaint (play c model v).answer

/-- Keys that hold the same in a world and in a store, and are no logs of the world. -/
def Shared (w : World) (s : Store) (key : Key) : Prop :=
  .file (some key) ∉ w.journal.sinks ∧ w.files.node? key = s.node? key

/-- When logging has been set up, the worlds are beside each other. -/
theorem beside_ready {c : Config} {w : World} {made : Store} {content : List UInt8} (s : Store)
    (there : ∀ key ∈ logKey? c.logging.file, made.node? key = some (.file content)) :
    Beside (Shared (w.logging c.logging.level.number c.logging.file made) s)
      (logKey? c.logging.file) w.console content
      (w.logging c.logging.level.number c.logging.file made) (rehearsal c w.scripts s) where
  scripts := rfl
  files key inside := by
    rw [inside.2]
    rfl
  level := rfl
  sinks := rfl
  listening := rfl
  console := String.append_empty.symm
  written key inside := by
    change made.node? key = _
    rw [there key inside]
    simp [rehearsal, utf8]

/-- What the program runs on is told in both worlds; then they are beside each other as before. -/
theorem runtime_beside {on : Key → Prop} {file : Option Key} {said : String} {held : List UInt8}
    {w v : World} (apart : ∀ key ∈ file, ¬on key) (beside : Beside on file said held w v)
    (fresh : v.console = "") :
    ∃ w₁ t, logRuntime loggerName w = ⟨.ok (), w₁, t⟩ ∧ t.filter Event.acts = [] ∧
      Beside on file (said ++ logText (logRuntime loggerName v).trace)
        (held ++ utf8 (logText (logRuntime loggerName v).trace)) w₁ v ∧
      ∀ e ∈ (logRuntime loggerName v).trace, e.isError = false := by
  let l : Leave := .free [] [] fun _ inside => inside
  have permits : l.Permits (logRuntime loggerName) := permits_logRuntime loggerName
  have after := permits.beside (by simp [l, Leave.free]) apart w v beside
  have heard := permits.obeys overhears_joins (fun _ _ is => is.overhears) v beside.listening
  have spares := permits.spares v
  obtain ⟨w₁, t, tells, -⟩ := logRuntime_run loggerName w
  obtain ⟨v₁, u, tells', logs⟩ := logRuntime_run loggerName v
  rw [tells, tells'] at after
  rw [tells'] at heard spares ⊢
  have console : v₁.console = logText u := by
    rw [heard.console, fresh, String.empty_append]
  have state := after.state
  refine ⟨w₁, t, tells, ?_, ?_, heard.calm⟩
  · rw [after.trace, List.filter_eq_nil_iff]
    intro e member
    simp [Event.acts, List.mem_singleton.mp (logs.within e member)]
  · constructor
    · rw [← logs.scripts]
      exact state.scripts
    · intro key inside
      rw [← spares.untouched key (by simp [l, Leave.free]) (beside.listening.unlogged key)]
      exact state.files key inside
    · rw [← heard.journal]
      exact state.level
    · exact state.sinks
    · exact beside.listening
    · rw [fresh, String.append_empty, ← console]
      exact state.console
    · intro key inside
      rw [fresh, state.written key inside, console]
      simp [utf8]

/-- The program runs a reel and nothing else, apart from what it logs and says. -/
theorem record_recorded {c : Config} {model : Option String} {w ready : World} {t : List Event}
    {s : Store} (sets : setUp c w = ⟨.ok (), ready, t⟩)
    (apart : ∀ key ∈ ways c model w.scripts.homes, .file (some key) ∉ ready.journal.sinks)
    (agree : Agree (· ∈ ways c model w.scripts.homes) ready.files s) :
    (record c model w).answer = exitOf (play c model (rehearsal c w.scripts s)).answer ∧
      Recorded c model ready (rehearsal c w.scripts s) (record c model w).trace
        (record c model w).state := by
  obtain ⟨rfl, made, prepared, rfl⟩ := setUp_ok sets
  let ready := w.logging c.logging.level.number c.logging.file made
  obtain ⟨content, there⟩ := prepareLog_there prepared
  have outside : ∀ key ∈ logKey? c.logging.file, ¬Shared ready s key := by
    intro key inside shared
    exact shared.1 (mem_logSinks.mpr inside)
  have seen : ∀ key ∈ (runLeave c model w.scripts.homes).sees, Shared ready s key := by
    intro key inside
    have same := agree key inside
    rw [Option.map_id, id, id] at same
    exact ⟨apart key inside, same.symm⟩
  obtain ⟨w₁, t₁, tells, idle, beside, calm⟩ :=
    runtime_beside outside (beside_ready s there) rfl
  let v := rehearsal c w.scripts s
  have homes : w₁.scripts.homes = w.scripts.homes :=
    (congrArg Scripts.homes beside.scripts :).symm
  have played := play_agrees (fun _ _ beside => beside.scripts.symm) beside
    (fun _ _ is => by rw [homes] at is; exact is.beside seen outside)
  have heard := play_obeys c model overhears_joins v (fun _ _ is => is.overhears) rfl
  rcases plays : play c model w₁ with ⟨answer, w₂, t₂⟩
  rcases plays' : play c model v with ⟨answer', v₂, u₂⟩
  rw [plays, plays'] at played
  rw [plays'] at heard
  obtain ⟨same, state, looks⟩ := played
  cases same
  have closed := close_closed (c := c) outside state (congrArg Journal.level heard.journal) answer
  have console : v₂.console = logText u₂ := by
    rw [heard.console]
    exact String.empty_append
  have messages : told c model v =
      (logRuntime loggerName v).trace ++ u₂ ++ complaint answer := by
    rw [told, plays']
  rw [record_run sets tells plays]
  refine ⟨closed.exit, ?_⟩
  constructor
  · rw [plays']
    change ((t₁ ++ t₂) ++ (close answer w₂).trace).filter Event.acts = _
    rw [List.filter_append, List.filter_append, idle, closed.idle, looks]
    simp
  · intro key unlogged same
    have shared := closed.files key ⟨unlogged, same⟩
    rw [Option.map_id, id, id] at shared
    rw [plays']
    exact shared.symm
  · rw [messages, plays']
    change (close answer w₂).state.console = w.console ++ _ ++ _
    rw [closed.console, console, logText_append, logText_append]
    simp only [String.append_assoc, v]
  · intro key logged
    have logged := mem_logSinks.mp logged
    refine ⟨content, there key logged, ?_⟩
    change (close answer w₂).state.files.node? key = _
    rw [closed.written key logged, messages, console, logText_append, logText_append]
    simp only [utf8_append, List.append_assoc, v]
  · rw [messages, plays', List.filter_append, List.filter_append, List.filter_eq_nil_iff.mpr,
      List.filter_eq_nil_iff.mpr]
    · cases answer with
      | ok stats => rfl
      | error fault =>
          rw [complaint]
          split <;> rfl
    · intro e member
      simp [heard.calm e member]
    · intro e member
      simp [calm e member]

end HatReel.Command
