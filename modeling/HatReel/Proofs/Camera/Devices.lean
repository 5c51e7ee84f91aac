import HatReel.Camera.Grabber
import HatReel.Camera.Preview
import HatReel.Camera.Recorder
import HatReel.Proofs.Rig.Events

/-! What every single use of a grabber, a recorder or a preview does: its answer, what it holds
afterwards, the scripts that it consumes and the events that it causes, case by case. -/

namespace HatReel.Camera

open HatReel.Image HatReel.Log HatReel.Rig

namespace Grabber

variable {g : Grabber} {w : World}

theorem setProperty_run (property : CaptureProperty) (n : Option Int) (w : World) :
    ∃ t, setProperty property n w = ⟨.ok (), w, t⟩ ∧ Within [.camera] t ∧ Quiet t ∧
      goodReads t = 0 := by
  cases n with
  | none => exact ⟨[], rfl, Within.nil, Quiet.nil, rfl⟩
  | some n =>
      by_cases zero : n = 0
      · exact ⟨[], by simp only [setProperty, if_pos zero]; rfl, Within.nil, Quiet.nil, rfl⟩
      · exact ⟨[.captureSet property n], by simp only [setProperty, if_neg zero]; rfl,
          Within.single (by simp [Event.device]), Quiet.single rfl, rfl⟩

def nextCapture (w : World) : CaptureScript := (next ⟨false, []⟩ w.scripts.captures).1

def captureTaken (w : World) : World :=
  { w with scripts :=
      { w.scripts with captures := (next ⟨false, []⟩ w.scripts.captures).2 } }

theorem openCapture_run (source : Source) (w : World) :
    openCapture source w = ⟨.ok (nextCapture w), captureTaken w, [.captureOpen source]⟩ := rfl

theorem hold_run (capture : Option Capture) (g : Grabber) (w : World) :
    hold capture (g, w) = ⟨.ok (), ({ g with capture := capture }, w), []⟩ := rfl

theorem start_refused (refused : (nextCapture w).opens = false) :
    start (g, w) = ⟨.error (.noSource g.source), (g, captureTaken w),
      [.captureOpen g.source, .captureRelease]⟩ := by
  unfold start
  rw [Act.get_bind]
  refine Act.bind_run (Act.below_run (openCapture_run _ _) g) ?_ rfl
  simp only [refused, Bool.not_false, if_true]
  rfl

theorem start_opened (opens : (nextCapture w).opens = true) :
    ∃ w' t, start (g, w) = ⟨.ok (), ({ g with capture := some ⟨(nextCapture w).reads⟩ }, w'),
        .captureOpen g.source :: t⟩ ∧
      w'.scripts = (captureTaken w).scripts ∧ Within [.camera, .journal] t ∧ Quiet t ∧
      goodReads t = 0 := by
  obtain ⟨wide, wideStep, wideWithin, wideQuiet, wideReads⟩ :=
    setProperty_run .width g.width (captureTaken w)
  obtain ⟨high, highStep, highWithin, highQuiet, highReads⟩ :=
    setProperty_run .height g.height (captureTaken w)
  obtain ⟨w', logged, logStep, logs⟩ :=
    log_run .info loggerName s!"[Grabber] Opened source {g.source.quoted}" (captureTaken w)
  refine ⟨w', wide ++ (high ++ logged), ?_, logs.scripts, ?_, ?_, ?_⟩
  · unfold start
    rw [Act.get_bind]
    refine Act.bind_run (Act.below_run (openCapture_run _ _) g) ?_ rfl
    simp only [opens, Bool.not_true, Bool.false_eq_true, if_false]
    refine Act.bind_run (Act.below_run wideStep g) ?_ rfl
    refine Act.bind_run (Act.below_run highStep g) ?_ rfl
    exact Act.bind_run (hold_run _ _ _) (Act.below_run logStep _) rfl
  · exact (wideWithin.mono (by decide)).append
      ((highWithin.mono (by decide)).append (logs.within.mono (by decide)))
  · exact wideQuiet.append (highQuiet.append logs.quiet)
  · rw [goodReads_append, goodReads_append, wideReads, highReads,
      goodReads_within logs.within (by decide)]

theorem grab_held {reads : List (Option Frame)} (held : g.capture = some ⟨reads⟩) :
    grab (g, w) = ⟨.ok (next none reads).1, ({ g with capture := some ⟨(next none reads).2⟩ }, w),
      [.captureRead (next none reads).1.isSome]⟩ := by
  unfold grab
  rw [Act.get_bind]
  simp only [held]
  rfl

theorem grab_idle (idle : g.capture = none) :
    grab (g, w) = ⟨.error .grabberIdle, (g, w), []⟩ := by
  unfold grab
  rw [Act.get_bind]
  simp only [idle]
  rfl

theorem stop_started (started : g.isStarted = true) :
    ∃ w' t, stop (g, w) = ⟨.ok (), ({ g with capture := none }, w'), .captureRelease :: t⟩ ∧
      Logs w t w' := by
  obtain ⟨w', t, step, logs⟩ := log_run .info loggerName "[Grabber] Released" w
  refine ⟨w', t, ?_, logs⟩
  unfold stop
  rw [Act.get_bind]
  simp only [started, if_true]
  refine Act.bind_run (Act.emit_run _ _) ?_ rfl
  exact Act.bind_run (hold_run _ _ _) (Act.below_run step _) rfl

theorem stop_idle (idle : g.isStarted = false) : stop (g, w) = ⟨.ok (), (g, w), []⟩ := by
  unfold stop
  rw [Act.get_bind]
  simp only [idle, Bool.false_eq_true, if_false]
  rfl

end Grabber

namespace Recorder

variable {r : Recorder} {w : World}

def writerTaken (w : World) : World :=
  { w with scripts := { w.scripts with writers := (next ⟨true, none⟩ w.scripts.writers).2 } }

theorem openWriter_run (w : World) :
    openWriter w = ⟨.ok (next ⟨true, none⟩ w.scripts.writers).1, writerTaken w, []⟩ := rfl

theorem hold_run (writer : Option Writer) (r : Recorder) (w : World) :
    hold writer (r, w) = ⟨.ok (), ({ r with writer := writer }, w), []⟩ := rfl

def opening (r : Recorder) (code : Int) : Event :=
  .writerOpen r.path.text code r.fps.toFloat r.width r.height

/-- A start fails before a writer is opened, or it opens one: then the writer is released at once,
or it is held. -/
inductive Started (r : Recorder) (w : World) : Ran (Recorder × World) Unit → Prop where
  | unopened (fault : Fault) (w' : World) (scripts : w'.scripts = w.scripts) :
      Started r w ⟨.error fault, (r, w'), []⟩
  | refused (code : Int) (w' : World) (scripts : w'.scripts = (writerTaken w).scripts) :
      Started r w ⟨.error (.noWriter r.path.text r.fourcc), (r, w'),
        [r.opening code, .writerRelease]⟩
  | opened (code : Int) (writer : Writer) (w' : World) (t : List Event)
      (scripts : w'.scripts = (writerTaken w).scripts) (within : Within [.journal] t)
      (fresh : writer.count = 0) :
      Started r w ⟨.ok (), ({ r with writer := some writer }, w'), r.opening code :: t⟩

theorem ensureDirectory_run (p : Files.Path) (w : World) :
    (∃ w', ensureDirectory p w = ⟨.ok (), w', []⟩ ∧ w'.scripts = w.scripts) ∨
      ∃ fault w', ensureDirectory p w = ⟨.error fault, w', []⟩ ∧ w'.scripts = w.scripts := by
  unfold ensureDirectory
  rcases w.files.ensureDirectory p with ⟨files, fault⟩
  cases fault with
  | none => exact Or.inl ⟨_, rfl, rfl⟩
  | some fault => exact Or.inr ⟨_, _, rfl, rfl⟩

theorem start_opened {made : World} {code : Int}
    (step : ensureDirectory r.path.parent w = ⟨.ok (), made, []⟩)
    (number : codeNumber? r.fourcc = some code)
    (opens : (next ⟨true, none⟩ made.scripts.writers).1.opens = true) :
    ∃ w' t, start (r, w) = ⟨.ok (), ({ r with
        writer := some ⟨(next ⟨true, none⟩ made.scripts.writers).1.failAt, 0⟩ }, w'),
        r.opening code :: t⟩ ∧ Logs (writerTaken made) t w' := by
  obtain ⟨w', t, logged, logs⟩ := log_run .info loggerName
    s!"[Recorder] Started: {r.path.text} {r.width}x{r.height} @ {r.fps.text} FPS"
    (writerTaken made)
  refine ⟨w', t, ?_, logs⟩
  unfold start
  rw [Act.get_bind]
  refine Act.bind_run (Act.below_run step r) ?_ rfl
  simp only [number]
  refine Act.bind_run (Act.pure_run _ _) ?_ rfl
  refine Act.bind_run (Act.emit_run _ _) ?_ rfl
  refine Act.bind_run (Act.below_run (openWriter_run made) r) ?_ rfl
  simp only [opens, Bool.not_true, Bool.false_eq_true, if_false]
  exact Act.bind_run (hold_run _ _ _) (Act.below_run logged _) rfl

theorem start_started (r : Recorder) (w : World) : Started r w (start (r, w)) := by
  rcases ensureDirectory_run r.path.parent w with
    ⟨made, step, scripts⟩ | ⟨fault, made, step, scripts⟩
  · cases number : codeNumber? r.fourcc with
    | none =>
        have result : start (r, w) = ⟨.error .codeLength, (r, made), []⟩ := by
          unfold start
          rw [Act.get_bind]
          refine Act.bind_run (Act.below_run step r) ?_ rfl
          simp only [number]
          rfl
        rw [result]
        exact .unopened _ made scripts
    | some code =>
        have taken : (writerTaken made).scripts = (writerTaken w).scripts := by
          simp only [writerTaken, scripts]
        cases opens : (next ⟨true, none⟩ made.scripts.writers).1.opens with
        | false =>
            have result : start (r, w) = ⟨.error (.noWriter r.path.text r.fourcc),
                (r, writerTaken made), [r.opening code, .writerRelease]⟩ := by
              unfold start
              rw [Act.get_bind]
              refine Act.bind_run (Act.below_run step r) ?_ rfl
              simp only [number]
              refine Act.bind_run (Act.pure_run _ _) ?_ rfl
              refine Act.bind_run (Act.emit_run _ _) ?_ rfl
              refine Act.bind_run (Act.below_run (openWriter_run made) r) ?_ rfl
              simp only [opens, Bool.not_false, if_true]
              rfl
            rw [result]
            exact .refused code _ taken
        | true =>
            obtain ⟨w', t, result, logs⟩ := start_opened step number opens
            rw [result]
            exact .opened code _ w' t (logs.scripts.trans taken) logs.within rfl
  · have result : start (r, w) = ⟨.error fault, (r, made), []⟩ := by
      unfold start
      rw [Act.get_bind]
      exact Act.bind_of_error _ (Act.below_run step r)
    rw [result]
    exact .unopened fault made scripts

/-- A frame is refused, the writer breaks down, or the frame is written. -/
inductive Recorded (r : Recorder) (w : World) (frame : Frame) :
    Ran (Recorder × World) Unit → Prop where
  | refused (fault : Fault) : Recorded r w frame ⟨.error fault, (r, w), []⟩
  | broken : Recorded r w frame ⟨.error .codec, (r, w), [.writerFail]⟩
  | written (writer writer' : Writer) (held : r.writer = some writer)
      (fits : (frame.width : Int) = r.width ∧ (frame.height : Int) = r.height)
      (counted : writer' = { writer with count := writer.count + 1 }) :
      Recorded r w frame
        ⟨.ok (), ({ r with written := r.written + 1, writer := some writer' }, w),
          [.writerWrite frame]⟩

theorem record_recorded (r : Recorder) (w : World) (frame : Frame) :
    Recorded r w frame (record frame (r, w)) := by
  unfold record
  rw [Act.get_bind]
  cases held : r.writer with
  | none =>
      simp only [held]
      exact .refused .recorderIdle
  | some writer =>
      simp only [held]
      split
      · exact .refused _
      · rename_i fits
        split
        · exact .broken
        · exact .written writer _ held (by simpa using fits) rfl

/-- Recording a frame goes the same way in every world, and leaves the world as it is. -/
theorem record_anywhere (r : Recorder) (frame : Frame) :
    ∃ answer r' t, ∀ w, record frame (r, w) = ⟨answer, (r', w), t⟩ := by
  unfold record
  simp only [Act.get_bind]
  cases held : r.writer with
  | none => exact ⟨_, _, _, fun _ => rfl⟩
  | some writer =>
      simp only
      split
      · exact ⟨_, _, _, fun _ => rfl⟩
      · split
        · exact ⟨_, _, _, fun _ => rfl⟩
        · exact ⟨.ok (), { r with
            written := r.written + 1, writer := some { writer with count := writer.count + 1 } },
            [.writerWrite frame], fun _ => rfl⟩

theorem stop_writing (writing : r.writer.isSome = true) :
    ∃ w' t, stop (r, w) = ⟨.ok (), ({ r with writer := none }, w'), .writerRelease :: t⟩ ∧
      Logs w t w' := by
  obtain ⟨w', t, step, logs⟩ :=
    log_run .info loggerName s!"[Recorder] Done, wrote {r.written} frames" w
  refine ⟨w', t, ?_, logs⟩
  unfold stop
  rw [Act.get_bind]
  simp only [writing, if_true]
  refine Act.bind_run (Act.emit_run _ _) ?_ rfl
  exact Act.bind_run (hold_run _ _ _) (Act.below_run step _) rfl

theorem stop_idle (idle : r.writer.isSome = false) : stop (r, w) = ⟨.ok (), (r, w), []⟩ := by
  unfold stop
  rw [Act.get_bind]
  simp only [idle, Bool.false_eq_true, if_false]
  rfl

inductive Stopped (r : Recorder) (w : World) : Ran (Recorder × World) Unit → Prop where
  | released (w' : World) (t : List Event) (logs : Logs w t w') :
      Stopped r w ⟨.ok (), ({ r with writer := none }, w'), .writerRelease :: t⟩
  | idle (idle : r.writer = none) : Stopped r w ⟨.ok (), (r, w), []⟩

theorem stop_stopped (r : Recorder) (w : World) : Stopped r w (stop (r, w)) := by
  cases writing : r.writer.isSome with
  | true =>
      obtain ⟨w', t, step, logs⟩ := stop_writing (w := w) writing
      rw [step]
      exact .released w' t logs
  | false =>
      rw [stop_idle writing]
      exact .idle (by simpa using writing)

end Recorder

namespace Preview

variable {p : Preview} {w : World}

def isShowing (p : Preview) : Bool := p.enabled && p.shown

/-- What a preview says when it is asked whether it is visible, if these are the answers to come
about its window. -/
def looksOpen (p : Preview) (answers : List Float) : Bool :=
  !p.enabled || (!p.closed && (!p.shown || !decide ((next 1.0 answers).1 < 1.0)))

def answersLeft (p : Preview) (answers : List Float) : List Float :=
  if p.enabled && !p.closed && p.shown then (next 1.0 answers).2 else answers

/-- A preview after a frame has been shown, when these are the keys to come. -/
def afterFrame (p : Preview) (keys : List Int) : Preview :=
  if p.enabled then
    { p with shown := true, closed := p.closed || isQuitKey (next (-1) keys).1 }
  else p

def keysLeft (p : Preview) (keys : List Int) : List Int :=
  if p.enabled then (next (-1) keys).2 else keys

theorem askWindow_run (title : String) (w : World) :
    askWindow title w = ⟨.ok (next 1.0 w.scripts.visible).1,
      { w with scripts := { w.scripts with visible := (next 1.0 w.scripts.visible).2 } },
      [.windowVisible title]⟩ := rfl

theorem close_run (p : Preview) (w : World) :
    close (p, w) = ⟨.ok (), ({ p with closed := true }, w), []⟩ := rfl

theorem waitKey_run (w : World) :
    waitKey w = ⟨.ok (next (-1) w.scripts.keys).1,
      { w with scripts := { w.scripts with keys := (next (-1) w.scripts.keys).2 } },
      [.waitKey 1 (next (-1) w.scripts.keys).1]⟩ := rfl

/-- What asking a preview looks like from outside: it looks at its window unless it need not. -/
def asking (p : Preview) : List Event :=
  if p.enabled && !p.closed && p.shown then [.windowVisible p.title] else []

def showing (p : Preview) (frame : Frame) (keys : List Int) : List Event :=
  if p.enabled then [.showWindow p.title (p.correct frame), .waitKey 1 (next (-1) keys).1] else []

/-- A preview that has been asked is closed if it says so, and has used up an answer if it had to
look at its window. The rest of its events are messages. -/
theorem isVisible_asking (p : Preview) (w : World) :
    ∃ w' logged, isVisible (p, w) = ⟨.ok (p.looksOpen w.scripts.visible),
        ({ p with closed := p.closed || !p.looksOpen w.scripts.visible }, w'), p.asking ++ logged⟩ ∧
      w'.scripts = { w.scripts with visible := p.answersLeft w.scripts.visible } ∧
      Within [.journal] logged := by
  rcases p with ⟨title, enabled, table, shown, closed⟩
  cases enabled with
  | false =>
      refine ⟨w, [], ?_, rfl, Within.nil⟩
      simp only [looksOpen, Bool.not_false, Bool.true_or, Bool.not_true, Bool.or_false]
      rfl
  | true =>
      cases closed with
      | true => exact ⟨w, [], rfl, rfl, Within.nil⟩
      | false =>
          cases shown with
          | false =>
              exact ⟨w, [], rfl, rfl, Within.nil⟩
          | true =>
              let asked : World :=
                { w with scripts := { w.scripts with visible := (next 1.0 w.scripts.visible).2 } }
              by_cases gone : (next 1.0 w.scripts.visible).1 < 1.0
              · obtain ⟨w', t, step, logs⟩ :=
                  log_run .info loggerName "[Display] Window closed" asked
                refine ⟨w', t, ?_, logs.scripts, logs.within⟩
                unfold isVisible
                rw [Act.get_bind]
                simp only [looksOpen, gone, Bool.not_true, Bool.false_eq_true, if_false,
                  decide_true, Bool.or_self, Bool.and_false]
                refine Act.bind_run (Act.below_run (askWindow_run _ _) _) ?_ rfl
                simp only [gone, if_true]
                refine Act.bind_run (Act.below_run step _) ?_ (List.append_nil t).symm
                exact Act.bind_run (close_run _ _) (Act.pure_run _ _) rfl
              · refine ⟨asked, [], ?_, rfl, Within.nil⟩
                unfold isVisible
                rw [Act.get_bind]
                simp only [looksOpen, gone, Bool.not_true, Bool.false_eq_true, if_false,
                  decide_false, Bool.not_false, Bool.and_true, Bool.or_true]
                refine Act.bind_run (Act.below_run (askWindow_run _ _) _) ?_ rfl
                simp only [gone, if_false]
                rfl

theorem isVisible_run (p : Preview) (w : World) :
    ∃ p' w' t, isVisible (p, w) = ⟨.ok (p.looksOpen w.scripts.visible), (p', w'), t⟩ ∧
      p' = { p with closed := p.closed || !p.looksOpen w.scripts.visible } ∧
      w'.scripts = { w.scripts with visible := p.answersLeft w.scripts.visible } ∧
      Within [.window, .journal] t ∧ Quiet t ∧ shows t = false := by
  obtain ⟨w', logged, step, scripts, within⟩ := isVisible_asking p w
  have asks : Within [.window] p.asking ∧ Quiet p.asking ∧ shows p.asking = false := by
    unfold asking
    split
    · exact ⟨Within.single (by simp [Event.device]), Quiet.single rfl, rfl⟩
    · exact ⟨Within.nil, Quiet.nil, rfl⟩
  refine ⟨_, w', _, step, rfl, scripts, ?_, asks.2.1.append within.quiet, ?_⟩
  · exact (asks.1.mono (by decide)).append (within.mono (by decide))
  · rw [shows_append, asks.2.2, shows_within within (by decide), Bool.or_false]

/-- A frame is shown in a window exactly if the preview is enabled. The rest of the events are
messages. -/
theorem present_showing (p : Preview) (frame : Frame) (w : World) :
    ∃ w' logged, present frame (p, w) = ⟨.ok (), (p.afterFrame w.scripts.keys, w'),
        p.showing frame w.scripts.keys ++ logged⟩ ∧
      w'.scripts = { w.scripts with keys := p.keysLeft w.scripts.keys } ∧
      Within [.journal] logged := by
  rcases p with ⟨title, enabled, table, shown, closed⟩
  cases enabled with
  | false => exact ⟨w, [], rfl, rfl, Within.nil⟩
  | true =>
      let p : Preview := ⟨title, true, table, shown, closed⟩
      let shownThen : Preview := ⟨title, true, table, true, closed⟩
      let pressed : World :=
        { w with scripts := { w.scripts with keys := (next (-1) w.scripts.keys).2 } }
      have showing : Act.emit (.showWindow p.title (p.correct frame)) (p, w) =
          ⟨.ok (), (p, w), [.showWindow title (p.correct frame)]⟩ := rfl
      have noted : change (fun p => { p with shown := true }) (p, w) =
          ⟨.ok (), (shownThen, w), []⟩ := rfl
      by_cases quits : isQuitKey (next (-1) w.scripts.keys).1
      · obtain ⟨w', t, step, logs⟩ :=
          log_run .info loggerName "[Display] Quit key pressed" pressed
        refine ⟨w', t, ?_, logs.scripts, logs.within⟩
        unfold present
        rw [Act.get_bind]
        simp only [if_true]
        refine Act.bind_run showing ?_ rfl
        refine Act.bind_run noted ?_ rfl
        refine Act.bind_run (Act.below_run (waitKey_run w) shownThen) ?_ rfl
        simp only [quits, if_true, afterFrame, Bool.or_true]
        exact Act.bind_run (Act.below_run step _) (close_run _ _) (List.append_nil t).symm
      · refine ⟨pressed, [], ?_, rfl, Within.nil⟩
        unfold present
        rw [Act.get_bind]
        simp only [if_true]
        refine Act.bind_run showing ?_ rfl
        refine Act.bind_run noted ?_ rfl
        refine Act.bind_run (Act.below_run (waitKey_run w) shownThen) ?_ rfl
        simp only [quits, if_false, afterFrame, if_true, Bool.or_false, Bool.false_eq_true]
        rfl

theorem present_run (p : Preview) (frame : Frame) (w : World) :
    ∃ w' t, present frame (p, w) = ⟨.ok (), (p.afterFrame w.scripts.keys, w'), t⟩ ∧
      w'.scripts = { w.scripts with keys := p.keysLeft w.scripts.keys } ∧
      Within [.window, .journal] t ∧ Quiet t ∧ shows t = p.enabled := by
  obtain ⟨w', logged, step, scripts, within⟩ := present_showing p frame w
  have shown : Within [.window] (p.showing frame w.scripts.keys) ∧
      Quiet (p.showing frame w.scripts.keys) ∧
      shows (p.showing frame w.scripts.keys) = p.enabled := by
    unfold showing
    cases p.enabled with
    | false => exact ⟨Within.nil, Quiet.nil, rfl⟩
    | true =>
        exact ⟨Within.cons (by simp [Event.device]) (Within.single (by simp [Event.device])),
          Quiet.cons rfl (Quiet.single rfl), rfl⟩
  refine ⟨w', _, step, scripts, ?_, shown.2.1.append within.quiet, ?_⟩
  · exact (shown.1.mono (by decide)).append (within.mono (by decide))
  · rw [shows_append, shown.2.2, shows_within within (by decide), Bool.or_false]

def disposed (p : Preview) : Preview := { p with shown := false, closed := true }

theorem dispose_hidden (hidden : p.isShowing = false) :
    dispose (p, w) = ⟨.ok (), (p.disposed, w), []⟩ := by
  have closed : (p.enabled && p.shown) = false := hidden
  unfold dispose
  rw [Act.get_bind]
  simp only [closed, Bool.false_eq_true, if_false]
  rfl

/-- A window that is on the screen is destroyed once, whether or not that succeeds. If it does, a
key is waited for; the rest of the events are messages. -/
theorem dispose_destroying (showing : p.isShowing = true) :
    ∃ w' waits logged, dispose (p, w) =
        ⟨.ok (), (p.disposed, w'), .destroyWindow p.title :: (waits ++ logged)⟩ ∧
      (∀ e ∈ waits, ∃ key, e = .waitKey 1 key) ∧ Within [.journal] logged := by
  have shown : (p.enabled && p.shown) = true := showing
  cases failing : w.scripts.destroyError with
  | some reason =>
      obtain ⟨w', t, step, logs⟩ :=
        log_run .debug loggerName s!"[Display] destroyWindow: {reason}" w
      refine ⟨w', [], t, ?_, by simp, logs.within⟩
      unfold dispose
      rw [Act.get_bind]
      simp only [shown, if_true, failing]
      refine Act.bind_run (Act.emit_run _ _) ?_ rfl
      exact Act.bind_run (Act.below_run step _) rfl (List.append_nil t).symm
  | none =>
      let pressed : World :=
        { w with scripts := { w.scripts with keys := (next (-1) w.scripts.keys).2 } }
      have waited : discard (Act.below waitKey) (p, w) =
          ⟨.ok (), (p, pressed), [.waitKey 1 (next (-1) w.scripts.keys).1]⟩ := rfl
      refine ⟨pressed, [.waitKey 1 (next (-1) w.scripts.keys).1], [], ?_, ?_, Within.nil⟩
      · unfold dispose
        rw [Act.get_bind]
        simp only [shown, if_true, failing]
        refine Act.bind_run (Act.emit_run _ _) ?_ rfl
        exact Act.bind_run waited rfl rfl
      · intro e member
        exact ⟨_, List.mem_singleton.mp member⟩

theorem dispose_showing (showing : p.isShowing = true) :
    ∃ w' t, dispose (p, w) = ⟨.ok (), (p.disposed, w'), .destroyWindow p.title :: t⟩ ∧
      Within [.window, .journal] t ∧ Quiet t := by
  obtain ⟨w', waits, logged, step, waiting, within⟩ := dispose_destroying (w := w) showing
  have waited : Within [.window, .journal] waits ∧ Quiet waits := by
    constructor
    · intro e member
      obtain ⟨key, rfl⟩ := waiting e member
      simp [Event.device]
    · intro e member
      obtain ⟨key, rfl⟩ := waiting e member
      rfl
  exact ⟨w', _, step, waited.1.append (within.mono (by decide)), waited.2.append within.quiet⟩

end Preview

end HatReel.Camera
