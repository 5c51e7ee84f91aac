import HatReel.Proofs.Rig.Parallel
import HatReel.Proofs.Text.Utf8

/-! A world and a listener beside it.

The same step is taken in a world that logs to the console and perhaps to a file, and in a world
beside it that logs to no file, and in which messages are events as well. Within its leave a step
does the same in both to the files and to all devices, and the lines that the one world adds to its
console and to its file are those that the other adds to its console. -/

namespace HatReel.Text

theorem utf8_append (a b : String) : utf8 (a ++ b) = utf8 a ++ utf8 b := by
  have whole : a ++ b = String.ofList (a.toList ++ b.toList) := by simp
  rw [whole, utf8_ofList, List.flatMap_append, ← utf8_ofList, ← utf8_ofList]
  simp

end HatReel.Text

namespace HatReel.Rig

open HatReel.Files HatReel.Files.Store HatReel.Log HatReel.Text

namespace Event

def logLine : Event → String
  | .log level logger message => Log.line level logger message
  | _ => ""

def isError : Event → Bool
  | .log level .. => level == Level.error.name
  | _ => false

theorem logLine_of_loud {e : Event} (loud : e.device ≠ .journal) : e.logLine = "" := by
  cases e <;> first | rfl | exact absurd rfl loud

theorem isError_of_loud {e : Event} (loud : e.device ≠ .journal) : e.isError = false := by
  cases e <;> first | rfl | exact absurd rfl loud

end Event

def logText (t : List Event) : String := String.join (t.map Event.logLine)

@[simp] theorem logText_nil : logText [] = "" := rfl

@[simp] theorem logText_append (t u : List Event) : logText (t ++ u) = logText t ++ logText u := by
  unfold logText
  rw [List.map_append, String.join_append]

@[simp] theorem logText_single (e : Event) : logText [e] = e.logLine := by
  simp [logText, String.join_cons]

def Listening (w : World) : Prop := w.journal.sinks = [.events, .console]

theorem Listening.unlogged {w : World} (listening : Listening w) (key : Key) :
    .file (some key) ∉ w.journal.sinks := by
  rw [show w.journal.sinks = [.events, .console] from listening]
  simp

/-- The console shows the messages among the events, and none of them reports an error. -/
structure Listens (w : World) (t : List Event) (w' : World) : Prop where
  journal : w'.journal = w.journal
  console : w'.console = w.console ++ logText t
  calm : ∀ e ∈ t, e.isError = false

abbrev Overhears (w : World) (t : List Event) (w' : World) : Prop := Listening w → Listens w t w'

theorem Listens.silent {w w' : World} (journal : w'.journal = w.journal)
    (console : w'.console = w.console) : Listens w [] w' where
  journal := journal
  console := by rw [console, logText_nil, String.append_empty]
  calm := by simp

theorem overhears_joins : Act.Joins Overhears where
  nothing w _ := .silent rfl rfl
  join := by
    intro w next last t u first second listening
    have one := first listening
    have two := second (by rw [Listening, one.journal]; exact listening)
    refine ⟨two.journal.trans one.journal, ?_, ?_⟩
    · rw [two.console, one.console, logText_append, String.append_assoc]
    · intro e member
      exact (List.mem_append.mp member).elim (one.calm e) (two.calm e)

theorem overhears_log (level : Level) (logger message : String) (calm : level ≠ .error) :
    Act.Obeys Overhears (log level logger message) := by
  intro w listening
  unfold log logAt
  split
  · rw [show w.journal.sinks = [.events, .console] from listening]
    refine ⟨rfl, ?_, ?_⟩
    · exact (congrArg (w.console ++ ·)
        (logText_single (.log (levelName level.number) logger message))).symm
    · intro e member
      rw [List.mem_singleton.mp member]
      cases level <;> first | rfl | exact absurd rfl calm
  · exact .silent rfl rfl

namespace Leave

variable {l : Leave} {α : Type} {x : Act World α}

theorem Fetch.overhears (is : l.Fetch α x) : Act.Obeys Overhears x := by
  cases is with
  | fail fault allowed => exact fun w _ => .silent rfl rfl
  | log level logger message calm => exact overhears_log level logger message calm
  | emit e loud =>
      intro w _
      refine ⟨rfl, ?_, ?_⟩
      · rw [Act.emit_run, logText_single, Event.logLine_of_loud loud, String.append_empty]
      · intro f member
        rw [List.mem_singleton.mp member]
        exact Event.isError_of_loud loud
  | respond f => exact fun w _ => .silent rfl rfl
  | ask f p isLocal seen =>
      intro w _
      unfold askFiles
      split <;> exact .silent rfl rfl
  | ensure p own =>
      intro w _
      unfold ensureDirectory
      split <;> exact .silent rfl rfl
  | write p content own =>
      intro w _
      unfold changeFiles
      split <;> exact .silent rfl rfl
  | unlink p own =>
      intro w listening
      unfold Rig.unlink
      split
      · exact .silent rfl rfl
      · exact .silent (moveFile_same (listening.unlogged _) _) rfl
      · exact .silent rfl rfl
  | replace p target own ownTarget =>
      intro w listening
      unfold Rig.replace
      split
      · refine .silent ?_ rfl
        dsimp only
        rw [moveFile_same (j := w.journal) (listening.unlogged _),
          moveFile_same (listening.unlogged _)]
      · exact .silent rfl rfl

theorem Basic.overhears (is : l.Basic α x) : Act.Obeys Overhears x := by
  cases is with
  | fetch is => exact is.overhears
  | take f => exact fun w _ => .silent rfl rfl

end Leave

/-- A world that logs to the console and perhaps to a file, and one beside it that listens. Their
files agree on some keys, and since a certain time the same lines have come to the console of both
and to the file. -/
structure Beside (on : Key → Prop) (file : Option Key) (said : String) (held : List UInt8)
    (w v : World) : Prop where
  scripts : v.scripts = w.scripts
  files : Agree on w.files v.files
  level : v.journal.level = w.journal.level
  sinks : w.journal.sinks = .console :: file.toList.map fun key => .file (some key)
  listening : Listening v
  console : w.console = said ++ v.console
  written : ∀ key ∈ file, w.files.node? key = some (.file (held ++ utf8 v.console))

namespace Beside

variable {on : Key → Prop} {file : Option Key} {said : String} {held : List UInt8} {w v : World}

theorem take (beside : Beside on file said held w v) (scripts : Scripts) :
    Beside on file said held { w with scripts } { v with scripts } :=
  { beside with scripts := rfl }

variable (apart : ∀ key ∈ file, ¬on key)

include apart

theorem unlogged (beside : Beside on file said held w v) {key : Key} (inside : on key) :
    .file (some key) ∉ w.journal.sinks := by
  rw [beside.sinks]
  intro logged
  rcases List.mem_cons.mp logged with never | member
  · cases never
  · obtain ⟨other, logs, same⟩ := List.mem_map.mp member
    cases same
    exact apart key (Option.mem_toList.mp logs) inside

theorem line (beside : Beside on file said held w v) (text : String) :
    Beside on file said held (w.writeLine text w.journal.sinks)
      (v.writeLine text v.journal.sinks) := by
  have console : w.console ++ text = said ++ (v.console ++ text) := by
    rw [beside.console, String.append_assoc]
  have sinks := beside.sinks
  rw [sinks, show v.journal.sinks = [.events, .console] from beside.listening]
  cases file with
  | none =>
      exact { beside with
        console := console
        written := fun _ never => nomatch never }
  | some key =>
      have found := beside.written key rfl
      have below : ¬(key = [] ∨ key = here) := below_of_file (by rw [found]; exact nofun)
      have appends : w.files.append key (utf8 text) =
          w.files.put key (.file (held ++ utf8 (v.console ++ text))) := by
        unfold append
        rw [found, utf8_append, ← List.append_assoc]
      have written : (w.files.append key (utf8 text)).node? key =
          some (.file (held ++ utf8 (v.console ++ text))) := by
        rw [appends, node?_put _ _ _ _ below, if_pos rfl]
      have agree : Agree on (w.files.append key (utf8 text)) v.files := by
        intro other inside
        have different : other ≠ key := fun same => apart key rfl (same ▸ inside)
        rw [appends, node?_put _ _ _ _ below, if_neg different]
        exact beside.files other inside
      exact { beside with
        files := agree
        console := console
        written := fun _ same => by cases same; exact written }

end Beside

theorem beside_log {on : Key → Prop} {file : Option Key} {said : String} {held : List UInt8}
    (apart : ∀ key ∈ file, ¬on key) (level : Level) (logger message : String) :
    Act.Matches Event.acts (Beside on file said held) (log level logger message)
      (log level logger message) := by
  intro w v beside
  have passes : v.journal.passes level.number = w.journal.passes level.number := by
    unfold Journal.passes
    rw [beside.level]
  unfold log logAt
  rw [passes]
  split
  · refine ⟨rfl, beside.line apart _, ?_⟩
    dsimp only
    split <;> split <;> rfl
  · exact ⟨rfl, beside, rfl⟩

theorem beside_parallel {on : Key → Prop} {file : Option Key} {said : String} {held : List UInt8}
    (apart : ∀ key ∈ file, ¬on key) : Parallel on (Beside on file said held) where
  responses beside := congrArg Scripts.responses beside.scripts
  files beside := beside.files
  unlogged beside inside := ⟨beside.unlogged apart inside, beside.listening.unlogged _⟩
  logs := beside_log apart
  respond beside left := { beside with scripts := by simp only [beside.scripts] }
  store beside agree kept _ :=
    { beside with
      files := agree
      written := fun key logs => kept key (apart key logs) _ (beside.written key logs) }

namespace Leave

variable {l : Leave} {α : Type} {x : Act World α} {on : Key → Prop} {file : Option Key}
  {said : String} {held : List UInt8}

section

variable (seen : ∀ key ∈ l.sees, on key) (apart : ∀ key ∈ file, ¬on key)

include seen apart

theorem Basic.beside (is : l.Basic α x) :
    Act.Matches Event.acts (Beside on file said held) x x := by
  cases is with
  | fetch is => exact is.agrees (beside_parallel apart) seen
  | take f =>
      intro w v beside
      have taken := beside.take (f w.scripts).2
      dsimp only
      rw [beside.scripts]
      exact ⟨rfl, taken, rfl⟩

theorem Permits.beside (permits : l.Permits x) :
    Act.Matches Event.acts (Beside on file said held) x x :=
  permits.agrees (fun _ _ beside => beside.scripts.symm) fun _ _ is => is.beside seen apart

end

end Leave

end HatReel.Rig
