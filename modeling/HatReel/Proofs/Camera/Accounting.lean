import HatReel.Proofs.Camera.Uses
import HatReel.Proofs.Rig.Diary

/-! The accounts of a recorder.

A recorder is started, entered, given frames, stopped and left in any order, while writers refuse to
open or break down. Its count is the number of frames that were written. A frame is written only to
the writer that the latest successful start opened, and a use that fails leaves the count and the
writer alone. -/

namespace HatReel.Camera.Recorder

open HatReel.Image HatReel.Rig

/-- Starting and entering, recording, stopping and leaving. -/
abbrev Task := Camera.Use Frame

abbrev act : Task → Act (Recorder × World) Unit := holder.act

abbrev Use := Entry Task Recorder Unit

/-- The writer of a recorder is another one or none after this use: it started with success or
stopped. -/
def LetsGo (use : Use) : Prop :=
  use.task.isStart = true ∧ use.ran.answer = .ok () ∨ use.task = .stop ∨ use.task = .exit

/-- The use started a recorder like `r` with success: it opened a writer, which has got nothing yet
and is held. -/
def Opens (r : Recorder) (writer : Writer) (use : Use) : Prop :=
  use.task.isStart = true ∧ use.ran.answer = .ok () ∧ use.ran.state.1.writer = some writer ∧
    writer.count = 0 ∧ ∃ code logged, use.ran.trace = r.opening code :: logged

/-- A writer is released by this use only if it was opened by it, too. -/
def ReleasesOwn (r : Recorder) (use : Use) : Prop :=
  .writerRelease ∈ use.ran.trace → ∃ code, use.ran.trace = [r.opening code, .writerRelease]

/-- The writer comes from the latest successful start, was not released since, and has got the
frames that were written since. -/
def HeldSince (r : Recorder) (past : List Use) (writer : Writer) : Prop :=
  ∃ before start after opened, past = before ++ start :: after ∧ Opens r opened start ∧
    (∀ use ∈ after, ¬ LetsGo use ∧ ReleasesOwn r use) ∧
    writer = { opened with count := (writes (eventsOf after)).length }

/-- What a recorder that was `r` in the beginning holds after these uses. -/
structure Accounts (r : Recorder) (past : List Use) (now : Recorder) : Prop where
  same : now.width = r.width ∧ now.height = r.height ∧ now.opening = r.opening
  written : now.written = (writes (eventsOf past)).length
  held : ∀ writer, now.writer = some writer → HeldSince r past writer

variable {r now : Recorder} {past : List Use}

theorem accounts_start (fresh : r.written = 0) (idle : r.writer = none) : Accounts r [] r where
  same := ⟨rfl, rfl, rfl⟩
  written := fresh
  held writer held := by
    rw [idle] at held
    cases held

theorem HeldSince.concat {writer : Writer} {use : Use} (held : HeldSince r past writer)
    (spared : ¬ LetsGo use ∧ ReleasesOwn r use) :
    HeldSince r (past ++ [use])
      { writer with count := writer.count + (writes use.ran.trace).length } := by
  obtain ⟨before, start, after, opened, rfl, opens, spares, rfl⟩ := held
  refine ⟨before, start, after ++ [use], opened, by simp, opens, ?_, ?_⟩
  · intro other member
    rcases List.mem_append.mp member with old | new
    · exact spares other old
    · rwa [List.mem_singleton.mp new]
  · rw [eventsOf_concat, writes_append, List.length_append]

theorem unwritten_logged {e : Event} {logged : List Event} (other : e.written? = none)
    (within : Within [.journal] logged) : writes (e :: logged) = [] := by
  rw [writes, List.filterMap_cons_none other]
  exact writes_within within (by decide)

/-- A use that leaves the recorder alone and writes nothing. -/
theorem Accounts.aside {use : Use} (accounts : Accounts r past now)
    (unwritten : writes use.ran.trace = []) (spared : ¬ LetsGo use ∧ ReleasesOwn r use) :
    Accounts r (past ++ [use]) now where
  same := accounts.same
  written := by
    rw [eventsOf_concat, writes_append, unwritten, List.append_nil, accounts.written]
  held writer held := by
    have kept := (accounts.held writer held).concat spared
    rwa [unwritten, List.length_nil, Nat.add_zero] at kept

theorem Accounts.idle {use : Use} (accounts : Accounts r past now)
    (unwritten : writes use.ran.trace = []) :
    Accounts r (past ++ [use]) { now with writer := none } where
  same := accounts.same
  written := by
    rw [eventsOf_concat, writes_append, unwritten, List.append_nil, ← accounts.written]
  held writer held := nomatch held

/-- A start that fails leaves the recorder as it is. One that succeeds begins a new account. -/
theorem accounts_started {task : Task} (isStart : task.isStart = true)
    (accounts : Accounts r past now) (w : World) {ran : Ran (Recorder × World) Unit}
    (started : Started now w ran) :
    Accounts r (past ++ [⟨task, (now, w), ran⟩]) ran.state.1 := by
  have unstopped : task ≠ .stop ∧ task ≠ .exit := by
    constructor <;> rintro rfl <;> cases isStart
  cases started with
  | unopened fault w' scripts =>
      refine accounts.aside rfl ⟨?_, nofun⟩
      rintro (⟨-, ok⟩ | stops | exits)
      · cases ok
      · exact unstopped.1 stops
      · exact unstopped.2 exits
  | refused code w' scripts =>
      refine accounts.aside rfl ⟨?_, fun _ => ⟨code, by rw [accounts.same.2.2]⟩⟩
      rintro (⟨-, ok⟩ | stops | exits)
      · cases ok
      · exact unstopped.1 stops
      · exact unstopped.2 exits
  | opened code writer w' logged scripts within fresh =>
      have unwritten : writes (now.opening code :: logged) = [] := unwritten_logged rfl within
      refine ⟨accounts.same, ?_, ?_⟩
      · rw [eventsOf_concat, writes_append, unwritten, List.append_nil, ← accounts.written]
      · intro held isHeld
        cases isHeld
        refine ⟨past, _, [], writer, rfl, ⟨isStart, rfl, rfl, fresh, code, logged, ?_⟩, by simp, ?_⟩
        · rw [accounts.same.2.2]
        · rw [eventsOf_nil, writes_nil, List.length_nil, ← fresh]

theorem accounts_recorded (accounts : Accounts r past now) (frame : Frame) (w : World)
    {ran : Ran (Recorder × World) Unit} (recorded : Recorded now w frame ran) :
    Accounts r (past ++ [⟨.work frame, (now, w), ran⟩]) ran.state.1 := by
  have works : ¬ LetsGo ⟨.work frame, (now, w), ran⟩ := by
    rintro (⟨isStart, -⟩ | stops | exits)
    · cases isStart
    · cases stops
    · cases exits
  cases recorded with
  | refused fault => exact accounts.aside rfl ⟨works, nofun⟩
  | broken => exact accounts.aside rfl ⟨works, by simp [ReleasesOwn]⟩
  | written writer writer' held fits counted =>
      refine ⟨accounts.same, ?_, ?_⟩
      · rw [eventsOf_concat, writes_append, List.length_append, ← accounts.written]
        rfl
      · intro other isOther
        cases isOther
        rw [counted]
        exact (accounts.held writer held).concat ⟨works, by simp [ReleasesOwn]⟩

theorem accounts_stopped {task : Task} (accounts : Accounts r past now) (w : World)
    {ran : Ran (Recorder × World) Unit} (stopped : Stopped now w ran) :
    Accounts r (past ++ [⟨task, (now, w), ran⟩]) ran.state.1 := by
  cases stopped with
  | released w' logged logs => exact accounts.idle (unwritten_logged rfl logs.within)
  | idle unheld =>
      have same : { now with writer := none } = now := by rw [← unheld]
      exact same ▸ accounts.idle rfl

inductive Used (now : Recorder) (w : World) : Task → Ran (Recorder × World) Unit → Prop where
  | started {task : Task} {ran : Ran (Recorder × World) Unit} (isStart : task.isStart = true)
      (started : Started now w ran) : Used now w task ran
  | recorded {frame : Frame} {ran : Ran (Recorder × World) Unit}
      (recorded : Recorded now w frame ran) : Used now w (.work frame) ran
  | stopped {task : Task} {ran : Ran (Recorder × World) Unit} (stopped : Stopped now w ran) :
      Used now w task ran

theorem act_used (task : Task) (now : Recorder) (w : World) :
    Used now w task (act task (now, w)) := by
  cases task with
  | start => exact .started rfl (start_started now w)
  | enter => exact .started rfl (start_started now w)
  | work frame => exact .recorded (record_recorded now w frame)
  | stop => exact .stopped (stop_stopped now w)
  | exit => exact .stopped (stop_stopped now w)

theorem accounts_use (task : Task) (accounts : Accounts r past now) (w : World) :
    Accounts r (past ++ [entry act task (now, w)]) (act task (now, w)).state.1 := by
  have used := act_used task now w
  change Accounts r (past ++ [⟨task, (now, w), act task (now, w)⟩]) _
  generalize act task (now, w) = ran at used
  cases used with
  | started isStart started => exact accounts_started isStart accounts w started
  | recorded recorded => exact accounts_recorded accounts _ w recorded
  | stopped stopped => exact accounts_stopped accounts w stopped

/-- A use that fails leaves the recorder as it is and writes nothing. -/
theorem failed_unchanged (task : Task) (now : Recorder) (w : World)
    (failed : (act task (now, w)).answer.isOk = false) :
    (act task (now, w)).state.1 = now ∧ writes (act task (now, w)).trace = [] := by
  have used := act_used task now w
  generalize act task (now, w) = ran at used failed
  cases used with
  | started isStart started =>
      cases started with
      | unopened fault w' scripts => exact ⟨rfl, rfl⟩
      | refused code w' scripts => exact ⟨rfl, rfl⟩
      | opened code writer w' logged => cases failed
  | recorded recorded =>
      cases recorded with
      | refused fault => exact ⟨rfl, rfl⟩
      | broken => exact ⟨rfl, rfl⟩
      | written writer writer' => cases failed
  | stopped stopped => cases stopped <;> cases failed

/-- Only recording a frame writes one, and that is the frame, of the right size, to the writer
held. -/
theorem written_held {task : Task} {w : World} {frame : Frame}
    (written : frame ∈ writes (act task (now, w)).trace) :
    task = .work frame ∧ ((frame.width : Int) = now.width ∧ (frame.height : Int) = now.height) ∧
      now.writer.isSome = true := by
  have used := act_used task now w
  generalize act task (now, w) = ran at used written
  cases used with
  | started isStart started =>
      cases started with
      | unopened fault w' scripts => cases written
      | refused code w' scripts => cases written
      | opened code writer w' logged scripts within =>
          rw [unwritten_logged rfl within] at written
          cases written
  | recorded recorded =>
      cases recorded with
      | refused fault => cases written
      | broken => cases written
      | written writer writer' held fits =>
          obtain rfl := List.mem_singleton.mp written
          exact ⟨rfl, fits, by rw [held]; rfl⟩
  | stopped stopped =>
      cases stopped with
      | released w' logged logs =>
          rw [unwritten_logged rfl logs.within] at written
          cases written
      | idle unheld => cases written

/-- Any history of a recorder. It counts the frames that were written. A frame that is written next
is the one that is given to be recorded, has the recorder's size and goes to the writer that the
latest successful start opened, which was not released since. A use that fails changes nothing about
the recorder and writes nothing. -/
theorem recorder_accounts (fresh : r.written = 0) (idle : r.writer = none)
    (turns : List (Turn Task)) (w w' : World) (task : Task) :
    let past := diary act turns (r, w)
    let now := (leaves act turns (r, w)).1
    let ran := act task (now, w')
    now.written = (writes (eventsOf past)).length ∧
    (∀ frame ∈ writes ran.trace, task = .work frame ∧
      ((frame.width : Int) = r.width ∧ (frame.height : Int) = r.height) ∧
      ∃ writer, now.writer = some writer ∧ HeldSince r past writer) ∧
    (ran.answer.isOk = false → ran.state.1 = now ∧ writes ran.trace = []) := by
  intro past now ran
  have accounts : Accounts r past now :=
    diary_holds (I := Accounts r)
      (fun past task object w accounts => accounts_use task accounts w) turns
      (accounts_start fresh idle)
  refine ⟨accounts.written, fun frame member => ?_, failed_unchanged task now w'⟩
  obtain ⟨isWork, fits, writing⟩ := written_held member
  obtain ⟨width, height, -⟩ := accounts.same
  obtain ⟨writer, held⟩ := Option.isSome_iff_exists.mp writing
  exact ⟨isWork, width ▸ height ▸ fits, writer, held, accounts.held writer held⟩

/-- A frame comes too early, the recorder is started, and the writer breaks down at the second
frame. -/
def breaking : List (Turn Task) :=
  let frame := Frame.generate 640 480 3 fun _ _ _ => 0
  [{ meanwhile w := { w with scripts := { w.scripts with writers := [⟨true, some 1⟩] } }
     task := .work frame },
    { task := .enter }, { task := .work frame }, { task := .work frame }]

theorem recorder_accounts_breaking : plainRecorder.written = 0 ∧ plainRecorder.writer = none ∧
    (leaves act breaking (plainRecorder, {})).1.written =
      (writes (eventsOf (diary act breaking (plainRecorder, {})))).length :=
  ⟨rfl, rfl, (recorder_accounts rfl rfl breaking {} {} .stop).1⟩

end HatReel.Camera.Recorder
