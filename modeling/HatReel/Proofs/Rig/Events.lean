import HatReel.Proofs.Rig.Steps

/-! Which device an event belongs to, what counts of a list of events, and what the steps that all
devices share do: logging changes no script and causes events of the journal only. -/

namespace HatReel.Rig

open HatReel.Image HatReel.Log

inductive Device where
  | camera
  | writer
  | window
  | detector
  | model
  | network
  | journal
  deriving DecidableEq, Repr

namespace Event

def device : Event → Device
  | .captureOpen _ | .captureSet .. | .captureRead _ | .captureRelease => .camera
  | .writerOpen .. | .writerWrite _ | .writerFail | .writerRelease => .writer
  | .showWindow .. | .waitKey .. | .windowVisible _ | .destroyWindow _ => .window
  | .detect .. => .detector
  | .cascadeLoad _ => .model
  | .httpGet .. | .httpIterate _ | .httpClose => .network
  | .log .. => .journal

def lifecycle? : Event → Option Device
  | .captureOpen _ | .captureRelease => some .camera
  | .writerOpen .. | .writerRelease => some .writer
  | .destroyWindow _ => some .window
  | _ => none

def written? : Event → Option Frame
  | .writerWrite frame => some frame
  | _ => none

def searched? : Event → Option Frame
  | @detect gray .. => some gray
  | _ => none

def isGoodRead : Event → Bool
  | .captureRead ok => ok
  | _ => false

def isShow : Event → Bool
  | .showWindow .. => true
  | _ => false

theorem isShow_other {e : Event} (other : e.device ≠ .window) : e.isShow = false := by
  cases e <;> first | rfl | exact absurd rfl other

theorem lifecycle?_journal {e : Event} (journal : e.device = .journal) : e.lifecycle? = none := by
  cases e <;> first | rfl | cases journal

theorem written?_other {e : Event} (other : e.device ≠ .writer) : e.written? = none := by
  cases e <;> first | rfl | exact absurd rfl other

theorem searched?_other {e : Event} (other : e.device ≠ .detector) : e.searched? = none := by
  cases e <;> first | rfl | exact absurd rfl other

theorem isGoodRead_other {e : Event} (other : e.device ≠ .camera) : e.isGoodRead = false := by
  cases e <;> first | rfl | exact absurd rfl other

end Event

def Within (devices : List Device) (t : List Event) : Prop := ∀ e ∈ t, e.device ∈ devices

namespace Within

variable {devices more : List Device} {t u : List Event}

theorem nil : Within devices [] := by
  intro e member
  cases member

theorem append (first : Within devices t) (second : Within devices u) :
    Within devices (t ++ u) := by
  intro e member
  rcases List.mem_append.mp member with left | right
  · exact first e left
  · exact second e right

theorem single {e : Event} (inside : e.device ∈ devices) : Within devices [e] := by
  intro f member
  rw [List.mem_singleton.mp member]
  exact inside

theorem cons {e : Event} (inside : e.device ∈ devices) (rest : Within devices t) :
    Within devices (e :: t) := append (single inside) rest

theorem mono (within : Within devices t) (wider : ∀ d ∈ devices, d ∈ more) : Within more t :=
  fun e member => wider _ (within e member)

end Within

def Quiet (t : List Event) : Prop := ∀ e ∈ t, e.lifecycle? = none

namespace Quiet

variable {t u : List Event}

theorem nil : Quiet [] := by
  intro e member
  cases member

theorem append (first : Quiet t) (second : Quiet u) : Quiet (t ++ u) := by
  intro e member
  rcases List.mem_append.mp member with left | right
  · exact first e left
  · exact second e right

theorem single {e : Event} (quiet : e.lifecycle? = none) : Quiet [e] := by
  intro f member
  rw [List.mem_singleton.mp member]
  exact quiet

theorem cons {e : Event} (quiet : e.lifecycle? = none) (rest : Quiet t) : Quiet (e :: t) :=
  append (single quiet) rest

end Quiet

theorem Within.quiet {t : List Event} (within : Within [.journal] t) : Quiet t :=
  fun e member => Event.lifecycle?_journal (List.mem_singleton.mp (within e member))

def writes (t : List Event) : List Frame := t.filterMap Event.written?

def searches (t : List Event) : List Frame := t.filterMap Event.searched?

def goodReads (t : List Event) : Nat := t.countP Event.isGoodRead

def shows (t : List Event) : Bool := t.any Event.isShow

@[simp] theorem shows_nil : shows [] = false := rfl

@[simp] theorem shows_append (t u : List Event) : shows (t ++ u) = (shows t || shows u) :=
  List.any_append

theorem shows_within {devices : List Device} {t : List Event} (within : Within devices t)
    (other : .window ∉ devices) : shows t = false := by
  rw [shows, List.any_eq_false]
  intro e member
  rw [Event.isShow_other]
  · exact Bool.false_ne_true
  · intro same
    exact other (same ▸ within e member)

@[simp] theorem writes_nil : writes [] = [] := rfl

@[simp] theorem writes_append (t u : List Event) : writes (t ++ u) = writes t ++ writes u :=
  List.filterMap_append

@[simp] theorem searches_nil : searches [] = [] := rfl

@[simp] theorem searches_append (t u : List Event) :
    searches (t ++ u) = searches t ++ searches u := List.filterMap_append

@[simp] theorem goodReads_nil : goodReads [] = 0 := rfl

@[simp] theorem goodReads_append (t u : List Event) :
    goodReads (t ++ u) = goodReads t + goodReads u := List.countP_append

theorem writes_within {devices : List Device} {t : List Event} (within : Within devices t)
    (other : .writer ∉ devices) : writes t = [] := by
  rw [writes, List.filterMap_eq_nil_iff]
  intro e member
  apply Event.written?_other
  intro same
  exact other (same ▸ within e member)

theorem searches_within {devices : List Device} {t : List Event} (within : Within devices t)
    (other : .detector ∉ devices) : searches t = [] := by
  rw [searches, List.filterMap_eq_nil_iff]
  intro e member
  apply Event.searched?_other
  intro same
  exact other (same ▸ within e member)

theorem goodReads_within {devices : List Device} {t : List Event} (within : Within devices t)
    (other : .camera ∉ devices) : goodReads t = 0 := by
  rw [goodReads, List.countP_eq_zero]
  intro e member
  rw [Event.isGoodRead_other]
  · exact Bool.false_ne_true
  · intro same
    exact other (same ▸ within e member)

structure Idle (t : List Event) : Prop where
  written : writes t = []
  searched : searches t = []
  unread : goodReads t = 0

theorem idle_nil : Idle [] := ⟨rfl, rfl, rfl⟩

theorem idle_append {t u : List Event} (first : Idle t) (second : Idle u) : Idle (t ++ u) where
  written := by rw [writes_append, first.written, second.written, List.append_nil]
  searched := by rw [searches_append, first.searched, second.searched, List.append_nil]
  unread := by rw [goodReads_append, first.unread, second.unread]

theorem Within.idle {devices : List Device} {t : List Event} (within : Within devices t)
    (noWriter : .writer ∉ devices) (noDetector : .detector ∉ devices)
    (noCamera : .camera ∉ devices) : Idle t :=
  ⟨writes_within within noWriter, searches_within within noDetector,
    goodReads_within within noCamera⟩

/-- The scripts stay as they are, and the events are those of the journal. -/
structure Logs (w : World) (t : List Event) (w' : World) : Prop where
  scripts : w'.scripts = w.scripts
  within : Within [.journal] t

theorem Logs.quiet {w w' : World} {t : List Event} (logs : Logs w t w') : Quiet t :=
  logs.within.quiet

theorem Logs.idle {w w' : World} {t : List Event} (logs : Logs w t w') : Idle t :=
  logs.within.idle (by decide) (by decide) (by decide)

theorem writeLine_scripts (w : World) (line : String) (sinks : List Sink) :
    (w.writeLine line sinks).scripts = w.scripts := by
  induction sinks generalizing w with
  | nil => rfl
  | cons sink rest ih =>
      cases sink with
      | events => exact ih w
      | console => exact ih _
      | file key =>
          cases key with
          | none => exact ih w
          | some key => exact ih _

theorem logAt_run (n : Int) (logger message : String) (w : World) :
    ∃ w' t, logAt n logger message w = ⟨.ok (), w', t⟩ ∧ Logs w t w' := by
  unfold logAt
  split
  · refine ⟨_, _, rfl, writeLine_scripts w _ _, ?_⟩
    split
    · exact Within.single (List.mem_singleton.mpr rfl)
    · exact Within.nil
  · exact ⟨w, [], rfl, rfl, Within.nil⟩

theorem log_run (level : Level) (logger message : String) (w : World) :
    ∃ w' t, log level logger message w = ⟨.ok (), w', t⟩ ∧ Logs w t w' :=
  logAt_run level.number logger message w

theorem log_logs (level : Level) (logger message : String) :
    Act.Obeys Logs (log level logger message) := by
  intro w
  obtain ⟨w', t, step, logs⟩ := log_run level logger message w
  rw [step]
  exact logs

theorem log_ok {level : Level} {logger message : String} {w w' : World} {t : List Event}
    (ran : log level logger message w = ⟨.ok (), w', t⟩) : Logs w t w' := by
  have logs := log_logs level logger message w
  rw [ran] at logs
  exact logs

theorem moveFile_same {j : Journal} {old : Files.Key} (unlogged : .file (some old) ∉ j.sinks)
    (new : Option Files.Key) : j.moveFile old new = j := by
  unfold Journal.moveFile
  have same : (j.sinks.map fun s => if s == .file (some old) then Sink.file new else s) =
      j.sinks.map id := by
    apply List.map_congr_left
    intro sink member
    have other : sink ≠ .file (some old) := fun same => unlogged (same ▸ member)
    rw [beq_eq_false_iff_ne.mpr other]
    rfl
  rw [same, List.map_id]

theorem readClock_run (w : World) :
    ∃ time w', readClock w = ⟨.ok time, w', []⟩ ∧
      ∃ clock, w'.scripts = { w.scripts with clock := clock } := by
  unfold readClock
  split
  · exact ⟨_, w, rfl, w.scripts.clock, rfl⟩
  · exact ⟨_, w, rfl, w.scripts.clock, rfl⟩
  · exact ⟨_, _, rfl, _, rfl⟩

end HatReel.Rig
