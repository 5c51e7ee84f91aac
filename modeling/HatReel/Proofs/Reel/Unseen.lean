import HatReel.Proofs.Reel.Ending
import HatReel.Proofs.Reel.Watched

/-! The preview never has a part in the recording.

Two runs are compared that differ in the settings of the preview only, one without a window and one
with it. As long as the window is there, both do the same but for the window and the journal: they
handle the same frames in the same way. If the window is closed, the run with the window stops and
the other may go on. -/

namespace HatReel.Rig

def Event.isOfWriter (e : Event) : Bool := e.device == .writer

def writerEvents (t : List Event) : List Event := t.filter Event.isOfWriter

theorem writerEvents_append (t u : List Event) :
    writerEvents (t ++ u) = writerEvents t ++ writerEvents u := List.filter_append t u

theorem writerEvents_within {devices : List Device} {t : List Event} (within : Within devices t)
    (other : .writer ∉ devices) : writerEvents t = [] := by
  rw [writerEvents, List.filter_eq_nil_iff]
  intro e member same
  exact other (eq_of_beq same ▸ within e member)

theorem writes_writerEvents (t : List Event) : writes (writerEvents t) = writes t := by
  rw [writes, writerEvents, List.filterMap_filter]
  refine congrArg (List.filterMap · t) (funext fun e => ?_)
  cases writer : e.isOfWriter with
  | true => rfl
  | false =>
      have other : e.device ≠ .writer := fun same => by simp [Event.isOfWriter, same] at writer
      rw [Event.written?_other other, if_neg Bool.false_ne_true]

/-- Worlds that differ at most in the keys and answers to come of a window, and in what has been
written down so far. -/
def Unseen (w w' : World) : Prop :=
  ∃ keys visible, w'.scripts = { w.scripts with keys := keys, visible := visible }

/-- Worlds that both differ a little from two such worlds are such worlds again. -/
theorem Unseen.around {w w' last last' : World} (unseen : Unseen w w') (first : Unseen w last)
    (second : Unseen w' last') : Unseen last last' := by
  obtain ⟨keys, visible, scripts⟩ := unseen
  obtain ⟨_, _, scripts₁⟩ := first
  obtain ⟨keys₂, visible₂, scripts₂⟩ := second
  exact ⟨keys₂, visible₂, by rw [scripts₂, scripts, scripts₁]⟩

theorem unseen_log (level : Log.Level) (logger message : String) :
    Act.Matches Event.isOfWriter Unseen (log level logger message) (log level logger message) := by
  rintro w w' ⟨keys, visible, scripts⟩
  obtain ⟨last, t, step, logs⟩ := log_run level logger message w
  obtain ⟨last', t', step', logs'⟩ := log_run level logger message w'
  rw [step, step']
  refine ⟨rfl, ⟨keys, visible, ?_⟩, ?_⟩
  · rw [logs'.scripts, scripts, logs.scripts]
  · change writerEvents t = writerEvents t'
    rw [writerEvents_within logs.within (by decide), writerEvents_within logs'.within (by decide)]

theorem unseen_readClock : Act.Matches Event.isOfWriter Unseen readClock readClock := by
  rintro w w' ⟨keys, visible, scripts⟩
  have clock : w'.scripts.clock = w.scripts.clock := by rw [scripts]
  unfold readClock
  rw [clock]
  split
  · exact ⟨rfl, ⟨keys, visible, scripts⟩, rfl⟩
  · exact ⟨rfl, ⟨keys, visible, scripts⟩, rfl⟩
  · exact ⟨rfl, ⟨keys, visible, by simp only [scripts]⟩, rfl⟩

end HatReel.Rig

namespace HatReel.Reel

open HatReel.Camera HatReel.Image HatReel.Log HatReel.Model HatReel.Rig

theorem unseen_drawRotation (config : Config) (size : Float) :
    Act.Matches Event.isOfWriter Unseen (drawRotation config size) (drawRotation config size) := by
  rintro w w' ⟨keys, visible, scripts⟩
  obtain ⟨same, silent⟩ := drawRotation_same config size w
  obtain ⟨same', silent'⟩ := drawRotation_same config size w'
  refine ⟨?_, ?_, by rw [silent, silent']⟩
  · exact (drawRotation_entropy config size (by rw [scripts])).symm
  · rw [same, same']
    exact ⟨keys, visible, scripts⟩

theorem unseen_annotate (s : Settings.ClassifierSettings) (frame gray : Frame) :
    Act.Matches Event.isOfWriter Unseen (annotate s frame gray) (annotate s frame gray) := by
  have detects : Act.Matches Event.isOfWriter Unseen (detect s gray) (detect s gray) := by
    rintro w w' ⟨keys, visible, scripts⟩
    rw [detect_run, detect_run]
    refine ⟨?_, ⟨keys, visible, ?_⟩, rfl⟩
    · simp only [nextFound, scripts]
    · simp only [facesTaken, scripts]
  refine Act.matches_bind detects fun faces => ?_
  rcases drawn : Draw.drawFaces frame faces with ⟨marked, fault⟩
  cases fault with
  | none => exact Act.matches_pure _
  | some fault => exact Act.matches_fail _

theorem unseen_process (config : Config) (rotation : Matrix Float) (frame : Frame) :
    Act.Matches Event.isOfWriter Unseen (process config rotation frame)
      (process config rotation frame) := by
  refine Act.matches_bind (Act.matches_require _ _) fun gray => ?_
  refine Act.matches_bind (unseen_annotate _ _ _) fun marked => ?_
  refine Act.matches_bind (Act.matches_require _ _) fun drawn => ?_
  refine Act.matches_bind (Act.matches_require _ _) fun warped => ?_
  exact Act.matches_pure _

/-- Two stages, the first without a window, that differ at most in their previews and in what they
know of a window. -/
structure Screened (s s' : Stage) : Prop where
  grabber : s'.grabber = s.grabber
  recorder : s'.recorder = s.recorder
  windowless : s.preview.any Preview.enabled = false
  world : Unseen s.world s'.world

theorem screened_refl {s : Stage} (hidden : s.preview = none) : Screened s s :=
  ⟨rfl, rfl, by rw [hidden]; rfl, _, _, rfl⟩

abbrev SameFilm {α : Type} (x y : Act Stage α) : Prop := Act.Matches Event.isOfWriter Screened x y

theorem screened_onWorld {α : Type} {x : Act World α}
    (inner : Act.Matches Event.isOfWriter Unseen x x) :
    SameFilm (Stage.onWorld x) (Stage.onWorld x) :=
  Act.matches_on inner (fun _ _ screened => screened.world)
    fun _ _ _ _ screened unseen => { screened with world := unseen }

theorem screened_turn (rotation : Matrix Float) :
    SameFilm (.modify fun s => { s with rotation := some rotation })
      (.modify fun s => { s with rotation := some rotation }) :=
  Act.matches_modify fun _ _ screened => { screened with }

theorem screened_grab : SameFilm (Stage.onGrabber Grabber.grab) (Stage.onGrabber Grabber.grab) := by
  intro s s' ⟨grabber, recorder, windowless, unseen⟩
  cases capture : s.grabber.capture with
  | none =>
      rw [Stage.onGrabber_run (Grabber.grab_idle capture),
        Stage.onGrabber_run (Grabber.grab_idle (grabber ▸ capture))]
      exact ⟨rfl, ⟨grabber, recorder, windowless, unseen⟩, rfl⟩
  | some held =>
      rw [Stage.onGrabber_run (Grabber.grab_held capture),
        Stage.onGrabber_run (Grabber.grab_held (grabber ▸ capture))]
      exact ⟨rfl, ⟨by rw [grabber], recorder, windowless, unseen⟩, rfl⟩

theorem screened_record (frame : Frame) :
    SameFilm (Stage.onRecorder () (Recorder.record frame))
      (Stage.onRecorder () (Recorder.record frame)) := by
  intro s s' ⟨grabber, recorder, windowless, unseen⟩
  cases held : s.recorder with
  | none =>
      rw [Stage.onRecorder_none () held, Stage.onRecorder_none () (recorder.trans held)]
      exact ⟨rfl, ⟨grabber, recorder, windowless, unseen⟩, rfl⟩
  | some r =>
      obtain ⟨answer, r', t, step⟩ := Recorder.record_anywhere r frame
      rw [Stage.onRecorder_run () held (step s.world),
        Stage.onRecorder_run () (recorder.trans held) (step s'.world)]
      exact ⟨rfl, ⟨grabber, rfl, windowless, unseen⟩, rfl⟩

/-- What a preview does with a frame is nothing to the writer. -/
theorem present_film (frame : Frame) (s : Stage) :
    ∃ preview w t, Stage.onPreview () (Preview.present frame) s =
        ⟨.ok (), { s with preview := preview, world := w }, t⟩ ∧
      Unseen s.world w ∧ writerEvents t = [] ∧
      preview.any Preview.enabled = s.preview.any Preview.enabled := by
  rcases s with ⟨grabber, recorder, preview, rotation, w⟩
  cases preview with
  | none => exact ⟨none, w, [], rfl, ⟨_, _, rfl⟩, rfl, rfl⟩
  | some p =>
      obtain ⟨w', t, step, scripts, within, _, _⟩ := Preview.present_run p frame w
      refine ⟨_, w', t, Stage.onPreview_run () rfl step, ⟨_, _, scripts⟩,
        writerEvents_within within (by decide), ?_⟩
      unfold Preview.afterFrame
      split <;> simp

theorem screened_present (frame : Frame) :
    SameFilm (Stage.onPreview () (Preview.present frame))
      (Stage.onPreview () (Preview.present frame)) := by
  intro s s' ⟨grabber, recorder, windowless, unseen⟩
  obtain ⟨preview, w, t, step, around, silent, same⟩ := present_film frame s
  obtain ⟨preview', w', t', step', around', silent', _⟩ := present_film frame s'
  rw [step, step']
  refine ⟨rfl, ⟨grabber, recorder, same.trans windowless, unseen.around around around'⟩, ?_⟩
  exact silent.trans silent'.symm

theorem screened_handle (config : Config) (rotation : Matrix Float) (frame : Frame)
    (stats : Stats) :
    SameFilm (handle config rotation frame stats) (handle config rotation frame stats) :=
  matches_handle (fun _ _ => screened_onWorld (unseen_process _ _ _)) screened_present
    screened_record rotation frame stats

theorem isVisible_windowless {s : Stage} (windowless : s.preview.any Preview.enabled = false) :
    Stage.onPreview true Preview.isVisible s = ⟨.ok true, s, []⟩ := by
  rcases s with ⟨grabber, recorder, preview, rotation, w⟩
  cases preview with
  | none => rfl
  | some p =>
      rcases p with ⟨title, enabled, table, shown, closed⟩
      cases windowless
      rfl

theorem isVisible_film (s : Stage) :
    ∃ isOpen preview w t, Stage.onPreview true Preview.isVisible s =
        ⟨.ok isOpen, { s with preview := preview, world := w }, t⟩ ∧
      Unseen s.world w ∧ writerEvents t = [] ∧
      (isOpen = false → preview.any Preview.closed = true) := by
  rcases s with ⟨grabber, recorder, preview, rotation, w⟩
  cases preview with
  | none => exact ⟨true, none, w, [], rfl, ⟨_, _, rfl⟩, rfl, fun no => by cases no⟩
  | some p =>
      obtain ⟨p', w', t, step, rfl, scripts, within, _, _⟩ := Preview.isVisible_run p w
      refine ⟨_, _, w', t, Stage.onPreview_run true rfl step, ⟨_, _, scripts⟩,
        writerEvents_within within (by decide), fun gone => ?_⟩
      simp [gone]

/-- The second of two results follows the first one: they are the same film, or the second one has
ended early since its preview was closed. -/
inductive Trails {α : Type} (x y : Ran Stage α) : Prop where
  | together (alike : Alike Event.isOfWriter Screened x y)
  | early (closed : y.state.isClosed = true) (behind : writes y.trace <+: writes x.trace)

theorem Trails.after {α : Type} {x y : Ran Stage α} (trails : Trails x y) {t u : List Event}
    (same : writerEvents t = writerEvents u) : Trails (x.after t) (y.after u) := by
  cases trails with
  | together alike => exact .together (alike.after same)
  | early closed behind =>
      refine .early closed ?_
      change writes (u ++ y.trace) <+: writes (t ++ x.trace)
      rw [writes_append, writes_append, ← writes_writerEvents u, ← same, writes_writerEvents]
      exact List.prefix_append_right_inj _ |>.mpr behind

def Follows {α : Type} (x y : Act Stage α) : Prop := ∀ s s', Screened s s' → Trails (x s) (y s')

section

variable {α β : Type} {x y : Act Stage α} {f g : α → Act Stage β}

theorem follows_of_same (same : SameFilm x y) : Follows x y :=
  fun s s' screened => .together (same s s' screened)

theorem follows_bind_of {s s' : Stage} (start : Alike Event.isOfWriter Screened (x s) (y s'))
    (rest : ∀ a, Follows (f a) (g a)) : Trails ((x >>= f) s) ((y >>= g) s') := by
  rcases left : x s with ⟨answer, next, t⟩
  rcases right : y s' with ⟨answer', next', t'⟩
  rw [left, right] at start
  obtain ⟨same, screened, looks⟩ := start
  cases same
  cases answer with
  | error fault =>
      rw [Act.bind_of_error f left, Act.bind_of_error g right]
      exact .together ⟨rfl, screened, looks⟩
  | ok a =>
      rw [Act.bind_of_ok f left, Act.bind_of_ok g right]
      exact (rest a next next' screened).after looks

theorem follows_bind (first : SameFilm x y) (rest : ∀ a, Follows (f a) (g a)) :
    Follows (x >>= f) (y >>= g) :=
  fun s s' screened => follows_bind_of (first s s' screened) rest

/-- What comes after the end of a film does not change who has ended early. -/
theorem follows_then (first : Follows x y) (rest : ∀ a, SameFilm (f a) (g a))
    (silent : ∀ a s, (g a s).state.preview = s.preview ∧ writes (g a s).trace = []) :
    Follows (x >>= f) (y >>= g) := by
  intro s s' screened
  have grows : writes (x s).trace <+: writes ((x >>= f) s).trace := by
    rcases left : x s with ⟨_ | a, next, t⟩
    · have same : writes ((x >>= f) s).trace = writes t := by rw [Act.bind_of_error f left]
      exact same ▸ List.prefix_rfl
    · rw [Act.bind_of_ok f left, Ran.after, writes_append]
      exact List.prefix_append _ _
  have stays : ((y >>= g) s').state.preview = (y s').state.preview ∧
      writes ((y >>= g) s').trace = writes (y s').trace := by
    rcases right : y s' with ⟨_ | a, next, t⟩
    · rw [Act.bind_of_error g right]
      exact ⟨rfl, rfl⟩
    · rw [Act.bind_of_ok g right, Ran.after, writes_append, (silent a next).2, List.append_nil]
      exact ⟨(silent a next).1, rfl⟩
  cases first s s' screened with
  | together alike => exact follows_bind_of alike fun a => follows_of_same (rest a)
  | early closed behind =>
      refine .early ?_ ?_
      · rw [Stage.isClosed, stays.1]
        exact closed
      · rw [stays.2]
        exact behind.trans grows

end

theorem follows_loop (config : Config) (rotation : Matrix Float) (fuel : Nat) (stats : Stats) :
    Follows (loop config rotation fuel stats) (loop config rotation fuel stats) := by
  induction fuel generalizing stats with
  | zero => exact follows_of_same (Act.matches_pure stats)
  | succ fuel ih =>
      intro s s' screened
      obtain ⟨isOpen, preview, w, t, step, around, silent, closes⟩ := isVisible_film s'
      have visible := isVisible_windowless screened.windowless
      have screened₁ : Screened s { s' with preview := preview, world := w } :=
        { screened with world := screened.world.around ⟨_, _, rfl⟩ around }
      unfold loop
      rw [Act.bind_of_ok _ visible, Act.bind_of_ok _ step]
      refine Trails.after ?_ (t := []) (u := t) silent.symm
      cases isOpen with
      | false => exact .early (closes rfl) (List.nil_prefix)
      | true =>
          refine follows_bind screened_grab (fun read => ?_) s _ screened₁
          cases read with
          | none => exact follows_of_same (Act.matches_pure stats)
          | some frame =>
              refine follows_bind (screened_handle _ _ _ _) fun after => ?_
              cases isEnough config after with
              | none => exact ih after
              | some n =>
                  exact follows_of_same (Act.matches_bind (screened_onWorld (unseen_log _ _ _))
                    fun _ => Act.matches_pure after)

theorem follows_filming (demo : Demo) (frame : Frame) :
    Follows (filming demo frame) (filming demo frame) := by
  refine follows_bind (screened_onWorld (unseen_drawRotation _ _)) fun rotation => ?_
  refine follows_bind (screened_turn rotation) fun _ => ?_
  refine follows_bind (screened_onWorld (unseen_log _ _ _)) fun _ => ?_
  refine follows_bind (screened_onWorld unseen_readClock) fun start => ?_
  intro s s' screened
  rw [Act.get_bind, Act.get_bind, screened.grabber]
  refine follows_then (follows_loop _ _ _ _) (fun stats => ?_) (fun stats last => ?_) s s' screened
  · exact Act.matches_bind (screened_onWorld unseen_readClock) fun now => Act.matches_pure _
  · obtain ⟨time, w, step, _⟩ := readClock_run last.world
    rw [Act.bind_of_ok _ (Stage.onWorld_run step)]
    exact ⟨rfl, rfl⟩

def Demo.withDisplay (demo : Demo) (d : Settings.DisplaySettings) : Demo :=
  { demo with config := { demo.config with display := d } }

theorem handle_display (c : Config) (d : Settings.DisplaySettings) :
    handle { c with display := d } = handle c := rfl

theorem loop_display (c : Config) (d : Settings.DisplaySettings) (rotation : Matrix Float)
    (fuel : Nat) (stats : Stats) :
    loop { c with display := d } rotation fuel stats = loop c rotation fuel stats := by
  induction fuel generalizing stats with
  | zero => rfl
  | succ fuel ih =>
      unfold loop
      simp only [handle_display, ih]
      rfl

theorem filming_display (demo : Demo) (d : Settings.DisplaySettings) (frame : Frame) :
    filming (demo.withDisplay d) frame = filming demo frame := by
  unfold filming Demo.withDisplay
  simp only [loop_display]
  rfl

/-- As long as there is no preview, both runs take the same steps. -/
theorem early_bind {α β : Type} {x : Act Stage α} {f g : α → Act Stage β}
    (keeps : ∀ s, (x s).state.preview = s.preview)
    (rest : ∀ a s, s.preview = none → Trails (f a s) (g a s)) :
    ∀ s, s.preview = none → Trails ((x >>= f) s) ((x >>= g) s) := by
  intro s hidden
  have keeps := keeps s
  rcases step : x s with ⟨answer, next, t⟩
  rw [step] at keeps
  have noneNext : next.preview = .none := keeps.trans hidden
  cases answer with
  | error fault =>
      rw [Act.bind_of_error f step, Act.bind_of_error g step]
      exact .together ⟨rfl, screened_refl noneNext, rfl⟩
  | ok a =>
      rw [Act.bind_of_ok f step, Act.bind_of_ok g step]
      exact (rest a next noneNext).after rfl

section

variable {demo : Demo} {d : Settings.DisplaySettings} {p p' : Preview}
  (own : demo.preview = none) (windowless : demo.config.display.enabled = false)
  (made : makePreview demo = .ok p) (made' : makePreview (demo.withDisplay d) = .ok p')

include own windowless made made'

theorem trails_recording (frame : Frame) :
    ∀ s, s.preview = none →
      Trails (recording demo frame s) (recording (demo.withDisplay d) frame s) := by
  refine early_bind (fun s => rfl) fun _ => ?_
  refine early_bind (fun s => rfl) fun _ => ?_
  refine early_bind ?_ fun _ s hidden => ?_
  · rintro ⟨grabber, recorder, preview, rotation, w⟩
    cases recorder with
    | none => rfl
    | some r => rfl
  · rw [made, made', filming_display]
    have screened : Screened { s with preview := some p } { s with preview := some p' } :=
      ⟨rfl, rfl, (makePreview_fresh own made).1.trans windowless, _, _, rfl⟩
    exact (follows_filming demo frame _ _ screened).after rfl

theorem trails_attempt (w : World) :
    Trails (attempt demo (demo.stage w)) (attempt (demo.withDisplay d) (demo.stage w)) := by
  refine early_bind (fun s => rfl) (fun _ => ?_) (demo.stage w) rfl
  refine early_bind (fun s => rfl) fun _ => ?_
  rw [body_eq, body_eq]
  refine early_bind (fun s => rfl) fun read s hidden => ?_
  cases read with
  | none => exact .together ⟨rfl, screened_refl hidden, rfl⟩
  | some frame => exact trails_recording own windowless made made' frame s hidden

end

/-- A run adds to its attempt the release of all devices and a message. The writer is released if it
is open then. -/
theorem run_extends (demo : Demo) (w : World) :
    let tried := attempt demo (demo.stage w)
    let ran := run (demo, w)
    ran.answer = tried.answer ∧ ∃ rest, ran.trace = tried.trace ++ rest ∧
      writerEvents rest = if tried.state.isWriting then [.writerRelease] else [] := by
  intro tried ran
  have outcome := run_outcome demo w
  change Outcome demo w ran at outcome
  have isTried : tried = attempt demo (demo.stage w) := rfl
  clear_value ran tried
  cases outcome with
  | unloaded fault w₁ loading fetches attempted =>
      rw [attempted] at isTried
      rw [isTried]
      exact ⟨rfl, [], (List.append_nil _).symm, rfl⟩
  | refused w₁ loading fetches attempted =>
      rw [attempted] at isTried
      rw [isTried]
      exact ⟨rfl, [], (List.append_nil _).symm, rfl⟩
  | ended w₁ w₂ w₃ w₄ s answer loading starting filming t₁ t₂ t₃ summing responses fetches opens
      scripts within quiet unread filmed attempted releases logs =>
      rw [attempted] at isTried
      rw [isTried]
      refine ⟨rfl, t₁ ++ (t₂ ++ t₃) ++ summing,
        by simp only [List.append_assoc, List.cons_append], ?_⟩
      have window : Within [.window, .journal] t₁ :=
        releases.window.within (by simp [Event.device]) (by decide)
      have camera : Within [.camera, .journal] t₃ :=
        releases.camera.within (by simp [Event.device]) (by decide)
      have writer : writerEvents t₂ = if s.isWriting then [.writerRelease] else [] := by
        have writer := releases.writer
        generalize s.isWriting = writing at writer ⊢
        cases writer with
        | unused => rfl
        | used u within quiet =>
            have rest : writerEvents u = [] := writerEvents_within within (by decide)
            change writerEvents ([.writerRelease] ++ u) = _
            rw [writerEvents_append, rest]
            rfl
      rw [writerEvents_append, writerEvents_append, writerEvents_append, writer,
        writerEvents_within window (by decide), writerEvents_within camera (by decide),
        writerEvents_within logs.within (by decide), List.append_nil, List.append_nil,
        List.nil_append]

theorem run_writes (demo : Demo) (w : World) :
    writes (run (demo, w)).trace = writes (attempt demo (demo.stage w)).trace := by
  obtain ⟨_, rest, trace, writer⟩ := run_extends demo w
  have silent : writes rest = [] := by
    rw [← writes_writerEvents, writer]
    split <;> rfl
  rw [trace, writes_append, silent, List.append_nil]

/-- What a run is told of its window it is told before the release. -/
theorem told_by_attempt {tried ran rest : List Event} (added : ran = tried ++ rest)
    (standing : ∀ e ∈ tried, e.isDestruction = false) (answers : List Float) :
    (∀ key ∈ keysRead tried, key ∈ keysRead (untilDestroyed ran)) ∧
      ∀ answer ∈ answers.take (questions tried), answer ∈ answers.take (questions ran) := by
  subst added
  constructor
  · intro key member
    rw [untilDestroyed_append standing, keysRead_append]
    exact List.mem_append_left _ member
  · intro answer member
    rw [questions_append]
    exact List.take_subset_take_left answers (Nat.le_add_right _ _) member

theorem make_display {config : Config} {model : Option String} {d d' : Settings.DisplaySettings}
    {bare : Demo} (made : Demo.make { config with display := d } model none = .ok bare) :
    bare.config.display = d ∧
      Demo.make { config with display := d' } model none = .ok (bare.withDisplay d') := by
  obtain ⟨source, normal, rfl⟩ := make_iff.mp made
  exact ⟨rfl, make_iff.mpr ⟨source, normal, rfl⟩⟩

/-- The preview has no part in the recording. Of two runs in the same world that differ in the
settings of the preview only, the first without a window, the second writes the first frames that
the first one writes. If no key that the second one reads as long as its window is there means
quitting, and no answer that it gets says that the window is gone, then the writer sees no
difference, and the runs end alike. -/
theorem run_unseen {config : Config} {model : Option String} {d d' : Settings.DisplaySettings}
    {bare windowed : Demo} {p p' : Preview} (windowless : d.enabled = false)
    (made : Demo.make { config with display := d } model none = .ok bare)
    (made' : Demo.make { config with display := d' } model none = .ok windowed)
    (previewed : makePreview bare = .ok p) (previewed' : makePreview windowed = .ok p')
    (w : World) :
    let one := run (bare, w)
    let other := run (windowed, w)
    writes other.trace <+: writes one.trace ∧
      ((∀ key ∈ keysRead (untilDestroyed other.trace), Preview.isQuitKey key = false) →
        (∀ answer ∈ w.scripts.visible.take (questions other.trace), ¬ answer < 1.0) →
          writerEvents other.trace = writerEvents one.trace ∧ other.answer = one.answer) := by
  intro one other
  obtain ⟨display, same⟩ : bare.config.display = d ∧
      Demo.make { config with display := d' } model none = .ok (bare.withDisplay d') :=
    make_display made
  rw [same] at made'
  cases made'
  have own := (make_grabber made).2
  have bareScreen : bare.config.display.enabled = false := by rw [display, windowless]
  have trails := trails_attempt own bareScreen previewed previewed' w
  obtain ⟨answer, rest, trace, writer⟩ := run_extends bare w
  obtain ⟨answer', rest', trace', writer'⟩ := run_extends (bare.withDisplay d') w
  have own' : (bare.withDisplay d').preview = none := own
  have watched := watched_attempt own' ((bare.withDisplay d').stage w)
  change Trails (attempt bare (bare.stage w))
    (attempt (bare.withDisplay d') ((bare.withDisplay d').stage w)) at trails
  obtain ⟨keysTold, answersTold⟩ := told_by_attempt trace' watched.standing w.scripts.visible
  cases trails with
  | together alike =>
      have looks : writerEvents (attempt bare (bare.stage w)).trace = writerEvents _ := alike.trace
      refine ⟨?_, fun _ _ => ⟨?_, ?_⟩⟩
      · have same : writes other.trace = writes one.trace := by
          rw [run_writes, run_writes, ← writes_writerEvents (attempt bare _).trace, looks,
            writes_writerEvents]
        exact same ▸ List.prefix_rfl
      · have writing :
            (attempt (bare.withDisplay d') ((bare.withDisplay d').stage w)).state.isWriting =
              (attempt bare (bare.stage w)).state.isWriting := by
          rw [Stage.isWriting, alike.state.recorder, Stage.isWriting]
        rw [trace, trace', writerEvents_append, writerEvents_append, writer, writer',
          looks, writing]
      · exact answer'.trans (alike.answer.symm.trans answer.symm)
  | early closed behind =>
      refine ⟨?_, fun keys answers => ?_⟩
      · rw [run_writes, run_writes]
        exact behind
      · have stays := watched.closes rfl (fun key member => keys key (keysTold key member))
          fun answer member => answers answer (answersTold answer member)
        rw [stays] at closed
        cases closed

theorem run_unseen_short :
    let d : Settings.DisplaySettings := { enabled := false }
    let bare := shortDemo.withDisplay d
    let one := run (bare, blackWorld 4)
    let other := run (shortDemo, blackWorld 4)
    d.enabled = false ∧ Demo.make { shortConfig with display := d } (some "m.xml") none = .ok bare ∧
      Demo.make shortConfig (some "m.xml") none = .ok shortDemo ∧
      (∃ p p', makePreview bare = .ok p ∧ makePreview shortDemo = .ok p') ∧
      writes other.trace <+: writes one.trace ∧
      writerEvents other.trace = writerEvents one.trace ∧ other.answer = one.answer := by
  intro d bare one other
  have made : Demo.make { shortConfig with display := d } (some "m.xml") none = .ok bare := rfl
  have made' : Demo.make shortConfig (some "m.xml") none = .ok shortDemo := rfl
  have shows : (makePreview bare).isOk = true ∧ (makePreview shortDemo).isOk = true := by
    decide +kernel
  rcases previewed : makePreview bare with _ | p
  · rw [previewed] at shows
    cases shows.1
  rcases previewed' : makePreview shortDemo with _ | p'
  · rw [previewed'] at shows
    cases shows.2
  obtain ⟨behind, alike⟩ := run_unseen (d := d)
    rfl made made' previewed previewed' (blackWorld 4)
  have keys : ∀ key ∈ keysRead (untilDestroyed other.trace), Preview.isQuitKey key = false := by
    decide +kernel
  obtain ⟨writer, answer⟩ := alike keys (by simp [blackWorld])
  exact ⟨rfl, made, made', ⟨p, p', rfl, rfl⟩, behind, writer, answer⟩

end HatReel.Reel
