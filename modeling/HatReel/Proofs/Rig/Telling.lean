import HatReel.Proofs.Rig.Beside
import HatReel.Proofs.Rig.Logging

/-! What is told while a log is set up again and again.

The setting that was made last says from which level on messages are told, and to which file besides
the console. Setting up adds nothing to any file and takes nothing away; a message that is told
becomes one line at the end of the console and one at the end of that file. So the console and the
files hold what they held, and after that the lines that went to them, in order. -/

namespace HatReel.Files.Store

def content (s : Store) (key : Key) : List UInt8 :=
  match s.node? key with
  | some (.file bytes) => bytes
  | _ => []

def Lengthens (s s' : Store) : Prop :=
  ∀ key bytes, s.node? key = some (.file bytes) →
    ∃ more, s'.node? key = some (.file (bytes ++ more))

section

variable {s s' last : Store} {key : Key}

theorem content_file {bytes : List UInt8} (found : s.node? key = some (.file bytes)) :
    s.content key = bytes := by rw [content, found]

theorem Lengthens.refl (s : Store) : Lengthens s s :=
  fun _ bytes found => ⟨[], by rw [found, List.append_nil]⟩

theorem Lengthens.trans (first : Lengthens s s') (second : Lengthens s' last) :
    Lengthens s last := by
  intro key bytes found
  obtain ⟨more, there⟩ := first key bytes found
  obtain ⟨further, atLast⟩ := second key _ there
  exact ⟨more ++ further, by rw [atLast, List.append_assoc]⟩

theorem openFile_content {p : Path} {old : List UInt8} (opened : s.openFile p = .ok (key, old)) :
    s.content key = old := by
  unfold openFile at opened
  split at opened
  · cases opened
  · rcases placed : s.place p with errno | ⟨_, _ | _ | bytes⟩ <;> rw [placed] at opened <;>
      cases opened
    · rw [content, ← place_node placed]
    · exact content_file (place_node placed).symm

theorem Makes.content {keys : List Key} (makes : Makes keys s s') (key : Key) :
    s'.content key = s.content key := by
  unfold Store.content
  rcases makes key with same | ⟨-, free, made⟩
  · rw [same]
  · rw [free, made]

theorem prepareLog_content {log : Option Path} (prepared : s.prepareLog log = (s', none))
    (key : Key) :
    s'.content key = s.content key := by
  cases log with
  | none =>
      cases prepared
      rfl
  | some p =>
      obtain ⟨above, old, ensured, opens, rfl⟩ := prepareLog_some prepared
      have makes := ensureDirectory_makes s p.parent
      rw [ensured] at makes
      have below := below_of_file (openFile_goal opens).2
      rw [← makes.content key]
      by_cases same : key = p.logKey
      · subst same
        rw [openFile_content opens]
        exact content_file (by rw [node?_put _ _ _ _ below, if_pos rfl])
      · rw [content, node?_put _ _ _ _ below, if_neg same, content]

theorem prepareLog_lengthens {log : Option Path} (prepared : s.prepareLog log = (s', none)) :
    Lengthens s s' := by
  intro key bytes found
  refine ⟨[], ?_⟩
  rw [List.append_nil]
  by_cases isLog : key ∈ log.map Path.logKey
  · obtain ⟨old, there⟩ := prepareLog_there prepared
    have same := prepareLog_content prepared key
    rw [content_file found, content_file (there key isLog)] at same
    rw [there key isLog, same]
  · exact prepareLog_kept prepared found (.inr isLog)

theorem node?_append {old : List UInt8} (found : s.node? key = some (.file old)) (more : List UInt8)
    (other : Key) :
    (s.append key more).node? other =
      if other = key then some (.file (old ++ more)) else s.node? other := by
  rw [append, found, node?_put _ _ _ _ (below_of_file (by rw [found]; exact nofun))]

end

end HatReel.Files.Store

namespace HatReel.Rig

open HatReel.Files HatReel.Files.Store HatReel.Log HatReel.Text

inductive LogCall where
  | setUp (level : String) (file : Option String)
  | message (n : Int) (logger text : String)

def LogCall.act : LogCall → Act World Unit
  | .setUp level file => setUpLogging level file
  | .message n logger text => logAt n logger text

def levelOf (name : String) : Int :=
  match meaning name with
  | .level n => n
  | _ => 0

/-- A level in whichever case its name is written. -/
theorem levelOf_ofName? {name : String} {level : Level} (named : Level.ofName? name = some level) :
    levelOf name = level.number := by
  unfold Level.ofName? at named
  have capital := List.find?_some named
  rw [beq_iff_eq] at capital
  unfold levelOf meaning
  rw [← capital]
  cases level <;> rfl

/-- Names of levels with a number of their own; zero is that of no level. -/
def LogCall.IsValid : LogCall → Prop
  | .setUp level _ => 0 < levelOf level
  | .message .. => True

def World.after? (w : World) : List LogCall → Option World
  | [] => some w
  | e :: rest =>
    match e.act w with
    | ⟨.ok _, next, _⟩ => next.after? rest
    | ⟨.error _, _, _⟩ => none

structure Told where
  text : String
  file : Option Key
  deriving DecidableEq

/-- From which level on messages are told, and to which file besides the console. -/
structure Setting where
  level : Int
  file : Option Key

namespace Setting

def ofNames (level : String) (file : Option String) : Setting := ⟨levelOf level, logKey? file⟩

def next (now : Setting) : LogCall → Setting
  | .setUp level file => ofNames level file
  | .message .. => now

def tells (now : Setting) : LogCall → List Told
  | .setUp .. => []
  | .message n logger text =>
    if isMember logger ∧ now.level ≤ n then [⟨Log.line (levelName n) logger text, now.file⟩] else []

/-- What comes of a sequence of calls, each under the setting that was made last before it. -/
def told (now : Setting) : List LogCall → List Told
  | [] => []
  | e :: rest => now.tells e ++ (now.next e).told rest

end Setting

def shown (lines : List Told) : String := String.join (lines.map Told.text)

def kept (key : Key) (lines : List Told) : List Told :=
  lines.filter fun line => line.file = some key

theorem shown_append (before more : List Told) :
    shown (before ++ more) = shown before ++ shown more := by
  rw [shown, List.map_append, String.join_append]
  rfl

theorem kept_append (key : Key) (before more : List Told) :
    kept key (before ++ more) = kept key before ++ kept key more := List.filter_append ..

/-- The lines have come to the console and to their files, and nothing else has come to either. -/
structure Hears (lines : List Told) (w w' : World) : Prop where
  console : w'.console = w.console ++ shown lines
  files : ∀ key, w'.files.content key = w.files.content key ++ utf8 (shown (kept key lines))

/-- Messages go where the setting says, and its file is there. -/
structure Setting.InForce (now : Setting) (w : World) : Prop where
  journal : w.journal = ⟨now.level, logSinks now.file⟩
  positive : 0 < now.level
  there : ∀ key ∈ now.file, ∃ bytes, w.files.node? key = some (.file bytes)

section

variable {w next last : World} {now : Setting} {t : List Event}

theorem shown_nil : utf8 (shown []) = [] := utf8_ofList []

theorem Hears.nothing {w w' : World} (console : w'.console = w.console)
    (files : ∀ key, w'.files.content key = w.files.content key) : Hears [] w w' where
  console := by rw [console, shown, List.map_nil, String.join_nil, String.append_empty]
  files key := by rw [files, kept, List.filter_nil, shown_nil, List.append_nil]

theorem Hears.trans {lines more : List Told} (first : Hears lines w next)
    (second : Hears more next last) : Hears (lines ++ more) w last where
  console := by rw [second.console, first.console, shown_append, String.append_assoc]
  files key := by
    rw [second.files, first.files, kept_append, shown_append, utf8_append, List.append_assoc]

theorem setUpLogging_ok {level : String} {file : Option String}
    (ran : setUpLogging level file w = ⟨.ok (), next, t⟩) :
    ∃ s, w.files.prepareLog (logPath? file) = (s, none) ∧
      next = w.logging (levelOf level) file s := by
  obtain ⟨n, middle, before, behind, isLevel, sets, -⟩ := Act.bind_ok ran
  unfold levelNumber at isLevel
  unfold levelOf
  cases means : meaning level with
  | level m =>
      rw [means] at isLevel
      cases isLevel
      exact (setUpLoggingAt_ok sets).2
  | text s =>
      rw [means] at isLevel
      cases isLevel
  | other =>
      rw [means] at isLevel
      cases isLevel
  | nothing =>
      rw [means] at isLevel
      cases isLevel

/-- Whatever was set up before, a new setting replaces it, and nothing is told. -/
theorem setUp_inForce {level : String} {file : Option String} (valid : 0 < levelOf level)
    (ran : setUpLogging level file w = ⟨.ok (), next, t⟩) :
    (Setting.ofNames level file).InForce next ∧ Hears [] w next := by
  obtain ⟨s, prepared, rfl⟩ := setUpLogging_ok ran
  obtain ⟨bytes, there⟩ := prepareLog_there prepared
  have keyOf : ∀ key ∈ logKey? file, key ∈ (logPath? file).map Path.logKey := fun _ same => same
  exact ⟨⟨rfl, valid, fun key isLog => ⟨bytes, there key (keyOf key isLog)⟩⟩,
    .nothing rfl (prepareLog_content prepared)⟩

theorem passes_iff (positive : 0 < now.level) (sinks : List Sink) (n : Int) :
    (⟨now.level, sinks⟩ : Journal).passes n = true ↔ now.level ≤ n := by
  have set : (now.level == 0) = false := beq_eq_false_iff_ne.mpr (by omega)
  simp only [Journal.passes, set, Bool.false_eq_true, if_false, Bool.and_eq_true, decide_eq_true_eq]
  omega

/-- A line comes to the console and to the file of the setting, if it has one. -/
theorem writeLine_hears (force : now.InForce w) (text : String) :
    now.InForce (w.writeLine text w.journal.sinks) ∧
      Hears [⟨text, now.file⟩] w (w.writeLine text w.journal.sinks) := by
  have isText : shown [⟨text, now.file⟩] = text := by simp [shown]
  obtain ⟨level, file⟩ := now
  rw [force.journal]
  cases file with
  | none =>
      refine ⟨⟨force.journal, force.positive, fun _ never => nomatch never⟩,
        by rw [isText]; rfl, ?_⟩
      intro key
      have nowhere : kept key [⟨text, none⟩] = [] := by simp [kept]
      rw [nowhere, shown_nil, List.append_nil]
      rfl
  | some log =>
      obtain ⟨old, found⟩ := force.there log rfl
      refine ⟨⟨force.journal, force.positive, ?_⟩, by rw [isText]; rfl, fun key => ?_⟩
      · rintro _ ⟨⟩
        exact ⟨old ++ utf8 text, by
          change (w.files.append log (utf8 text)).node? log = _
          rw [node?_append found, if_pos rfl]⟩
      · change (w.files.append log (utf8 text)).content key = _
        by_cases same : key = log
        · subst same
          have mine : kept key [⟨text, some key⟩] = [⟨text, some key⟩] := by simp [kept]
          rw [mine, isText, content_file found]
          exact content_file (by rw [node?_append found, if_pos rfl])
        · have other : kept key [⟨text, some log⟩] = [] := by simp [kept, Ne.symm same]
          rw [content, node?_append found, if_neg same, other, shown_nil, List.append_nil, content]

theorem logCall_hears {e : LogCall} (valid : e.IsValid) (force : now.InForce w)
    (ran : e.act w = ⟨.ok (), next, t⟩) :
    (now.next e).InForce next ∧ Hears (now.tells e) w next := by
  cases e with
  | setUp level file => exact setUp_inForce valid ran
  | message n logger text =>
      change logAt n logger text w = _ at ran
      have passes := passes_iff force.positive (logSinks now.file) n
      rw [← force.journal] at passes
      unfold logAt at ran
      simp only [Bool.and_eq_true, passes] at ran
      split at ran
      · next reaches =>
        cases ran
        rw [Setting.tells, if_pos reaches]
        exact writeLine_hears force _
      · next below =>
        cases ran
        rw [Setting.tells, if_neg below]
        exact ⟨force, .nothing rfl fun _ => rfl⟩

theorem after?_cons {e : LogCall} {rest : List LogCall} (ran : w.after? (e :: rest) = some last) :
    ∃ next t, e.act w = ⟨.ok (), next, t⟩ ∧ next.after? rest = some last := by
  unfold World.after? at ran
  rcases acts : e.act w with ⟨_ | ⟨⟩, next, t⟩ <;> rw [acts] at ran
  · cases ran
  · exact ⟨next, t, rfl, ran⟩

theorem after?_append {calls more : List LogCall} (ran : w.after? (calls ++ more) = some last) :
    ∃ middle, w.after? calls = some middle ∧ middle.after? more = some last := by
  induction calls generalizing w with
  | nil => exact ⟨w, rfl, ran⟩
  | cons e rest ih =>
      obtain ⟨next, t, acts, ran⟩ := after?_cons ran
      obtain ⟨middle, before, behind⟩ := ih ran
      refine ⟨middle, ?_, behind⟩
      rw [World.after?, acts]
      exact before

/-- By induction on the calls; each of them leaves its own setting in force for the rest. -/
theorem told_hears {calls : List LogCall} (valid : ∀ e ∈ calls, e.IsValid) (force : now.InForce w)
    (ran : w.after? calls = some last) : Hears (now.told calls) w last := by
  induction calls generalizing w now with
  | nil =>
      cases ran
      exact .nothing rfl fun _ => rfl
  | cons e rest ih =>
      obtain ⟨next, t, acts, ran⟩ := after?_cons ran
      obtain ⟨further, hears⟩ := logCall_hears (valid e List.mem_cons_self) force acts
      exact hears.trans (ih (fun e inside => valid e (List.mem_cons_of_mem _ inside)) further ran)

/-- No call takes anything from a file, whatever was set up. -/
theorem logCall_lengthens {e : LogCall} (ran : e.act w = ⟨.ok (), next, t⟩) :
    Lengthens w.files next.files := by
  cases e with
  | setUp level file =>
      obtain ⟨s, prepared, rfl⟩ := setUpLogging_ok ran
      exact prepareLog_lengthens prepared
  | message n logger text =>
      change logAt n logger text w = _ at ran
      unfold logAt at ran
      split at ran
      · cases ran
        intro key bytes found
        rcases writeLine_extended w (Log.line (levelName n) logger text) w.journal.sinks key with
          same | ⟨old, more, before, after⟩
        · exact ⟨[], by rw [same, found, List.append_nil]⟩
        · rw [found] at before
          cases before
          exact ⟨more, after⟩
      · cases ran
        exact .refl _

theorem after_lengthens {calls : List LogCall} (ran : w.after? calls = some last) :
    Lengthens w.files last.files := by
  induction calls generalizing w with
  | nil =>
      cases ran
      exact .refl _
  | cons e rest ih =>
      obtain ⟨next, t, acts, ran⟩ := after?_cons ran
      exact (logCall_lengthens acts).trans (ih ran)

end

/-- A log that is set up, used, and set up again any number of times. The console holds what it held
and then one line for each message that reached the level of the setting made last before it; every
file holds what it held and then those of the lines for which it was the file of that setting; all
in order, and nothing else. At every moment before, the files held a beginning of what they hold in
the end. -/
theorem log_told {level : String} {file : Option String} {calls : List LogCall} {w last : World}
    (valid : ∀ e ∈ .setUp level file :: calls, e.IsValid)
    (ran : w.after? (.setUp level file :: calls) = some last) :
    let told := (Setting.ofNames level file).told calls
    last.console = w.console ++ shown told ∧
    (∀ key, last.files.content key = w.files.content key ++ utf8 (shown (kept key told))) ∧
    ∀ before after, .setUp level file :: calls = before ++ after →
      ∃ middle, w.after? before = some middle ∧ middle.after? after = some last ∧
        Lengthens middle.files last.files := by
  obtain ⟨next, t, acts, rest⟩ := after?_cons ran
  obtain ⟨force, silent⟩ := setUp_inForce (valid _ List.mem_cons_self) acts
  have hears :=
    silent.trans (told_hears (fun e inside => valid e (List.mem_cons_of_mem _ inside)) force rest)
  refine ⟨hears.console, hears.files, fun before after split => ?_⟩
  rw [split] at ran
  obtain ⟨middle, first, second⟩ := after?_append ran
  exact ⟨middle, first, second, after_lengthens second⟩

def repeated : List LogCall := [
  .setUp "INFO" (some "logs/a.txt"), .message 20 "cvdemo.demo" "one", .message 10 "cvdemo" "two",
  .setUp "warning" (some "./logs/b/../a.txt"), .message 20 "cvdemo.demo" "three",
  .message 30 "cvdemo.demo" "four", .setUp "Debug" none, .message 10 "cvdemo" "five"]

theorem log_told_repeated : (∀ e ∈ repeated, e.IsValid) ∧
    ∃ last, ({} : World).after? repeated = some last ∧
      last.console = "<time> | INFO     | cvdemo.demo | one\n" ++
        "<time> | WARNING  | cvdemo.demo | four\n" ++ "<time> | DEBUG    | cvdemo | five\n" ∧
      last.files.content ["", "logs", "a.txt"] = utf8 ("<time> | INFO     | cvdemo.demo | one\n" ++
        "<time> | WARNING  | cvdemo.demo | four\n") := by
  have valid : ∀ e ∈ repeated, e.IsValid := by
    simp only [repeated, List.forall_mem_cons, LogCall.IsValid]
    refine ⟨?_, trivial, trivial, ?_, trivial, trivial, ?_, trivial, fun _ never => nomatch never⟩
    · rw [levelOf_ofName? (by decide : Level.ofName? "INFO" = some .info)]
      decide
    · rw [levelOf_ofName? (by decide : Level.ofName? "warning" = some .warning)]
      decide
    · rw [levelOf_ofName? (by decide : Level.ofName? "Debug" = some .debug)]
      decide
  have runs : (({} : World).after? repeated).isSome = true := by decide +kernel
  obtain ⟨last, ran⟩ := Option.isSome_iff_exists.mp runs
  obtain ⟨console, files, -⟩ := log_told valid ran
  refine ⟨valid, last, ran, ?_, ?_⟩
  · rw [console]
    decide +kernel
  · rw [files]
    decide +kernel

end HatReel.Rig
