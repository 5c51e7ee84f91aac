import HatReel.Proofs.Camera.Devices
import HatReel.Proofs.Rig.Lifecycle

/-! What an object that holds a device has opened, released and still holds after any number of
uses.

A grabber holds a capture and a recorder a writer. Of each use it is said how many devices it opens
and releases and whether one is held afterwards; the balance of a whole history follows by induction
on the uses, each of which may fail. One kind of use breaks the rule of one device for each holder:
to start again, with success, what holds a device already. The device that was held is released by
nobody then. -/

namespace HatReel.Rig

def Event.opening? : Event → Option Device
  | .captureOpen _ => some .camera
  | .writerOpen .. => some .writer
  | _ => none

def openings (t : List Event) : List Device := t.filterMap Event.opening?

@[simp] theorem openings_append (t u : List Event) : openings (t ++ u) = openings t ++ openings u :=
  List.filterMap_append

theorem Event.opening?_quiet {e : Event} (quiet : e.lifecycle? = none) : e.opening? = none := by
  cases e <;> first | rfl | cases quiet

theorem Quiet.openings {t : List Event} (quiet : Quiet t) : openings t = [] := by
  rw [Rig.openings, List.filterMap_eq_nil_iff]
  intro e member
  exact Event.opening?_quiet (quiet e member)

def opened (device : Device) (t : List Event) : Nat := (openings t).count device

def released (device : Device) (t : List Event) : Nat := (endings t).count device

theorem opened_append (device : Device) (t u : List Event) :
    opened device (t ++ u) = opened device t + opened device u := by
  rw [opened, openings_append, List.count_append]
  rfl

theorem released_append (device : Device) (t u : List Event) :
    released device (t ++ u) = released device t + released device u := by
  rw [released, endings_append, List.count_append]
  rfl

/-- Before these events `held` devices are open and after them `left`. -/
def Settles (device : Device) (held : Nat) (t : List Event) (left : Nat) : Prop :=
  held + opened device t = released device t + left

theorem settles_append {device : Device} {held middle left : Nat} {t u : List Event}
    (first : Settles device held t middle) (second : Settles device middle u left) :
    Settles device held (t ++ u) left := by
  unfold Settles at *
  rw [opened_append, released_append]
  omega

theorem Settles.more {device : Device} {held left : Nat} {t : List Event}
    (settles : Settles device held t left) (n : Nat) : Settles device (held + n) t (left + n) := by
  unfold Settles at *
  omega

theorem Quiet.settles {t : List Event} (quiet : Quiet t) (device : Device) (held : Nat) :
    Settles device held t held := by
  unfold Settles opened released
  rw [quiet.openings, quiet.endings, List.count_nil, Nat.zero_add, Nat.add_zero]

/-- Steps one after another; a fault ends only its own step. -/
def Act.each {σ : Type} : List (Act σ Unit) → Act σ Unit
  | [] => pure ()
  | x :: rest => fun s => (each rest (x s).state).after (x s).trace

end HatReel.Rig

namespace HatReel.Camera

open HatReel.Files HatReel.Image HatReel.Rig

/-- What can be done with an object that holds a device: entering it starts it, and leaving it stops
it. Anything else is work on the device. -/
inductive Use (ω : Type) where
  | start
  | enter
  | work (task : ω)
  | stop
  | exit

def Use.isStart {ω : Type} : Use ω → Bool
  | .start | .enter => true
  | _ => false

/-- A kind of objects that hold a device from a successful start to a stop. A start opens one
device; if it fails, that device is released at once. Work neither opens nor releases anything. -/
structure Holder (τ ω : Type) where
  device : Device
  isHolding : τ → Bool
  start : Act (τ × World) Unit
  work : ω → Act (τ × World) Unit
  stop : Act (τ × World) Unit
  start_ok : ∀ s, (start s).answer.isOk = true →
    isHolding (start s).state.1 = true ∧ Settles device 0 (start s).trace 1
  start_error : ∀ s, (start s).answer.isOk = false →
    isHolding (start s).state.1 = isHolding s.1 ∧ Settles device 0 (start s).trace 0
  work_same : ∀ task s,
    isHolding (work task s).state.1 = isHolding s.1 ∧ Settles device 0 (work task s).trace 0
  stop_empty : ∀ s,
    isHolding (stop s).state.1 = false ∧ Settles device (isHolding s.1).toNat (stop s).trace 0

namespace Holder

variable {τ ω : Type} (h : Holder τ ω)

def act : Use ω → Act (τ × World) Unit
  | .start | .enter => h.start
  | .work task => h.work task
  | .stop | .exit => h.stop

/-- A history of uses; those that fail are followed by the next one all the same. -/
def history (uses : List (Use ω)) : Act (τ × World) Unit := Act.each (uses.map h.act)

def restarts (s : τ × World) (use : Use ω) : Bool :=
  use.isStart && h.isHolding s.1 && (h.act use s).answer.isOk

def restartCount : List (Use ω) → τ × World → Nat
  | [], _ => 0
  | use :: rest, s => (h.restarts s use).toNat + restartCount rest (h.act use s).state

theorem history_cons (use : Use ω) (rest : List (Use ω)) (s : τ × World) :
    h.history (use :: rest) s =
      (h.history rest (h.act use s).state).after (h.act use s).trace := rfl

theorem start_settles (s : τ × World) :
    Settles h.device (h.isHolding s.1).toNat (h.start s).trace
      ((h.isHolding (h.start s).state.1).toNat +
        (h.isHolding s.1 && (h.start s).answer.isOk).toNat) := by
  cases answer : (h.start s).answer.isOk with
  | true =>
      obtain ⟨holding, settles⟩ := h.start_ok s answer
      rw [holding, Bool.and_true, ← Nat.zero_add (h.isHolding s.1).toNat]
      have all := settles.more (h.isHolding s.1).toNat
      simpa using all
  | false =>
      obtain ⟨same, settles⟩ := h.start_error s answer
      rw [same, Bool.and_false]
      have all := settles.more (h.isHolding s.1).toNat
      simpa using all

/-- One use: what was held or opened has been released, is held, or was lost by a restart. -/
theorem use_settles (use : Use ω) (s : τ × World) :
    Settles h.device (h.isHolding s.1).toNat (h.act use s).trace
      ((h.isHolding (h.act use s).state.1).toNat + (h.restarts s use).toNat) := by
  cases use with
  | start => exact h.start_settles s
  | enter => exact h.start_settles s
  | work task =>
      obtain ⟨same, settles⟩ := h.work_same task s
      have all := settles.more (h.isHolding s.1).toNat
      simpa [act, restarts, Use.isStart, same] using all
  | stop =>
      obtain ⟨empty, settles⟩ := h.stop_empty s
      simpa [act, restarts, Use.isStart, empty] using settles
  | exit =>
      obtain ⟨empty, settles⟩ := h.stop_empty s
      simpa [act, restarts, Use.isStart, empty] using settles

theorem history_settles (uses : List (Use ω)) (s : τ × World) :
    Settles h.device (h.isHolding s.1).toNat (h.history uses s).trace
      ((h.isHolding (h.history uses s).state.1).toNat + h.restartCount uses s) := by
  induction uses generalizing s with
  | nil => exact Quiet.nil.settles _ _
  | cons use rest ih =>
      rw [history_cons, restartCount]
      have first := h.use_settles use s
      have others := (ih (h.act use s).state).more (h.restarts s use).toNat
      have all := settles_append first others
      rw [Nat.add_assoc, Nat.add_comm (h.restartCount rest _)] at all
      exact all

theorem history_balanced (uses : List (Use ω)) {s : τ × World} (idle : h.isHolding s.1 = false) :
    let ran := h.history uses s
    opened h.device ran.trace = released h.device ran.trace +
      (if h.isHolding ran.state.1 then 1 else 0) + h.restartCount uses s := by
  have settles := h.history_settles uses s
  rw [idle] at settles
  have one (b : Bool) : b.toNat = if b then 1 else 0 := by cases b <;> rfl
  simpa [Settles, one, Nat.add_assoc] using settles

theorem history_stopped (uses : List (Use ω)) {last : Use ω} (isLast : last = .stop ∨ last = .exit)
    (s : τ × World) : h.isHolding (h.history (uses ++ [last]) s).state.1 = false := by
  induction uses generalizing s with
  | nil =>
      obtain rfl | rfl := isLast
      · exact (h.stop_empty s).1
      · exact (h.stop_empty s).1
  | cons use rest ih => exact ih (h.act use s).state

end Holder

def Grabber.holder : Holder Grabber Unit where
  device := .camera
  isHolding := Grabber.isStarted
  start := Grabber.start
  work _ := do let _ ← Grabber.grab
  stop := Grabber.stop
  start_ok := by
    rintro ⟨g, w⟩ ok
    cases opens : (Grabber.nextCapture w).opens with
    | false =>
        rw [Grabber.start_refused opens] at ok
        cases ok
    | true =>
        obtain ⟨w', t, step, _, _, quiet, _⟩ := Grabber.start_opened (g := g) opens
        rw [step]
        exact ⟨rfl, settles_append (t := [.captureOpen g.source]) rfl (quiet.settles _ 1)⟩
  start_error := by
    rintro ⟨g, w⟩ failed
    cases opens : (Grabber.nextCapture w).opens with
    | false =>
        rw [Grabber.start_refused opens]
        exact ⟨rfl, rfl⟩
    | true =>
        obtain ⟨w', t, step, _⟩ := Grabber.start_opened (g := g) opens
        rw [step] at failed
        cases failed
  work_same := by
    rintro _ ⟨g, w⟩
    cases capture : g.capture with
    | none =>
        rw [Act.bind_of_error _ (Grabber.grab_idle capture)]
        exact ⟨rfl, rfl⟩
    | some held =>
        rw [Act.bind_of_ok _ (Grabber.grab_held capture)]
        exact ⟨by simp [Grabber.isStarted, capture]; rfl, rfl⟩
  stop_empty := by
    rintro ⟨g, w⟩
    cases started : g.isStarted with
    | true =>
        obtain ⟨w', t, step, logs⟩ := Grabber.stop_started (w := w) started
        rw [step]
        exact ⟨rfl, settles_append (t := [.captureRelease]) rfl (logs.quiet.settles _ 0)⟩
    | false =>
        rw [Grabber.stop_idle started]
        exact ⟨started, rfl⟩

def Recorder.holder : Holder Recorder Frame where
  device := .writer
  isHolding r := r.writer.isSome
  start := Recorder.start
  work := Recorder.record
  stop := Recorder.stop
  start_ok := by
    rintro ⟨r, w⟩ ok
    have started := Recorder.start_started r w
    generalize Recorder.start (r, w) = ran at started ok
    cases started with
    | unopened fault w' scripts => cases ok
    | refused code w' scripts => cases ok
    | opened code writer w' t scripts within =>
        exact ⟨rfl, settles_append (t := [r.opening code]) rfl (within.quiet.settles _ 1)⟩
  start_error := by
    rintro ⟨r, w⟩ failed
    have started := Recorder.start_started r w
    generalize Recorder.start (r, w) = ran at started failed
    cases started with
    | unopened fault w' scripts => exact ⟨rfl, rfl⟩
    | refused code w' scripts => exact ⟨rfl, rfl⟩
    | opened code writer w' t scripts within => cases failed
  work_same := by
    rintro frame ⟨r, w⟩
    have recorded := Recorder.record_recorded r w frame
    generalize Recorder.record frame (r, w) = ran at recorded
    cases recorded with
    | refused fault => exact ⟨rfl, rfl⟩
    | broken => exact ⟨rfl, rfl⟩
    | written writer writer' held => exact ⟨by rw [held]; rfl, rfl⟩
  stop_empty := by
    rintro ⟨r, w⟩
    cases writing : r.writer.isSome with
    | true =>
        obtain ⟨w', t, step, logs⟩ := Recorder.stop_writing (w := w) writing
        rw [step]
        exact ⟨rfl, settles_append (t := [.writerRelease]) rfl (logs.quiet.settles _ 0)⟩
    | false =>
        rw [Recorder.stop_idle writing]
        exact ⟨writing, rfl⟩

/-- After any history of uses, failing ones included, a fresh grabber and a fresh recorder hold the
one device that is open, or none is: what was opened has been released, is held, or was lost to a
use that started with success what held a device already. A last stop leaves open only what was
lost. -/
theorem history_accounted {g : Grabber} {r : Recorder} (idle : g.isStarted = false)
    (unopened : r.writer = none) (w : World) :
    (∀ uses, let ran := Grabber.holder.history uses (g, w)
      opened .camera ran.trace = released .camera ran.trace +
        (if ran.state.1.isStarted then 1 else 0) +
        Grabber.holder.restartCount uses (g, w)) ∧
    (∀ uses, let ran := Recorder.holder.history uses (r, w)
      opened .writer ran.trace = released .writer ran.trace +
        (if ran.state.1.writer.isSome then 1 else 0) +
        Recorder.holder.restartCount uses (r, w)) ∧
    (∀ uses last, last = .stop ∨ last = .exit →
      (Grabber.holder.history (uses ++ [last]) (g, w)).state.1.isStarted = false) ∧
    ∀ uses last, last = .stop ∨ last = .exit →
      (Recorder.holder.history (uses ++ [last]) (r, w)).state.1.writer = none := by
  refine ⟨fun uses => ?_, fun uses => ?_, fun uses last isLast => ?_, fun uses last isLast => ?_⟩
  · exact Grabber.holder.history_balanced uses idle
  · exact Recorder.holder.history_balanced uses (show r.writer.isSome = false by rw [unopened]; rfl)
  · exact Grabber.holder.history_stopped uses isLast (g, w)
  · simpa [Recorder.holder] using Recorder.holder.history_stopped uses isLast (r, w)

def plainGrabber : Grabber :=
  { source := .index 0, width := none, height := none, gamma := 2.2 }

def plainRecorder : Recorder :=
  { path := Path.ofText "out.avi", width := 640, height := 480, fps := .real 60.0,
    fourcc := "XVID" }

def twoCameras : World := { scripts := { captures := [⟨true, []⟩, ⟨true, []⟩] } }

theorem history_accounted_plain : plainGrabber.isStarted = false ∧ plainRecorder.writer = none ∧
    (Grabber.holder.history ([.enter, .work ()] ++ [.exit])
      (plainGrabber, twoCameras)).state.1.isStarted = false ∧
    (Recorder.holder.history ([.start] ++ [.stop])
      (plainRecorder, twoCameras)).state.1.writer = none := by
  have accounted := history_accounted (g := plainGrabber) (r := plainRecorder) rfl rfl twoCameras
  exact ⟨rfl, rfl, accounted.2.2.1 _ _ (.inr rfl), accounted.2.2.2 _ _ (.inl rfl)⟩

theorem restart_loses :
    (let ran := Grabber.holder.history [.start, .start, .stop] (plainGrabber, twoCameras)
     opened .camera ran.trace = 2 ∧ released .camera ran.trace = 1 ∧
       ran.state.1.isStarted = false) ∧
    (let ran := Recorder.holder.history [.start, .start, .stop] (plainRecorder, twoCameras)
     opened .writer ran.trace = 2 ∧ released .writer ran.trace = 1 ∧
       ran.state.1.writer.isSome = false) := by
  decide +kernel

end HatReel.Camera
