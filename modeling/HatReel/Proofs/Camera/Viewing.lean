import HatReel.Proofs.Camera.Devices
import HatReel.Proofs.Rig.Diary

/-! The life of a preview.

A preview is shown frames, is asked whether it is visible, corrects frames and is disposed of, in
any order and any number of times, while the keys, the answers about its window and the failures to
destroy it are whatever they are. What the preview remembers is read off the diary of its uses: it
is closed exactly if an entry closed it, and it takes its window to be there only after a frame was
shown and before it was disposed of. -/

namespace HatReel.Camera.Preview

open HatReel.Image HatReel.Rig

inductive Task where
  | present (frame : Frame)
  | ask
  | correct (frame : Frame)
  | dispose

inductive Reply where
  | done
  | visible (answer : Bool)
  | corrected (frame : Frame)

def act : Task → Act (Preview × World) Reply
  | .present frame => do
    present frame
    return .done
  | .ask => do return .visible (← isVisible)
  | .correct frame => do
    let (p, _) ← Act.get
    return .corrected (p.correct frame)
  | .dispose => do
    dispose
    return .done

abbrev Use := Entry Task Preview Reply

/-- A use closes a preview if it reads a key for quitting while it shows a frame, if it reads that
the window is not visible, or if it disposes of the preview. -/
def Closes (use : Use) : Prop :=
  match use.task with
  | .present _ =>
      ∃ delay key, .waitKey delay key ∈ use.ran.trace ∧ (key % 256 = 27 ∨ key % 256 = 113)
  | .ask =>
    (∃ title, .windowVisible title ∈ use.ran.trace) ∧
      (next 1.0 use.before.2.scripts.visible).1 < 1.0
  | .correct _ => False
  | .dispose => True

def Shows (use : Use) : Prop := ∃ title frame, .showWindow title frame ∈ use.ran.trace

def Disposes (use : Use) : Prop := use.task = .dispose

def Presents (use : Use) : Prop := ∃ frame, use.task = .present frame

def IsShown (title : String) (e : Event) : Prop := ∃ frame, e = .showWindow title frame

def IsDestroyed (e : Event) : Prop := ∃ title, e = .destroyWindow title

variable {p q : Preview} {w : World} {past : List Use}

theorem act_present (frame : Frame) (w : World) :
    ∃ w' logged, act (.present frame) (p, w) = ⟨.ok .done, (p.afterFrame w.scripts.keys, w'),
        p.showing frame w.scripts.keys ++ logged⟩ ∧ Within [.journal] logged := by
  obtain ⟨w', logged, step, -, within⟩ := present_showing p frame w
  refine ⟨w', logged, ?_, within⟩
  exact Act.bind_run step (Act.pure_run _ _) (List.append_nil _).symm

theorem act_ask (w : World) :
    ∃ w' logged, act .ask (p, w) = ⟨.ok (.visible (p.looksOpen w.scripts.visible)),
        ({ p with closed := p.closed || !p.looksOpen w.scripts.visible }, w'), p.asking ++ logged⟩ ∧
      Within [.journal] logged := by
  obtain ⟨w', logged, step, -, within⟩ := isVisible_asking p w
  refine ⟨w', logged, ?_, within⟩
  exact Act.bind_run step (Act.pure_run _ _) (List.append_nil _).symm

theorem act_dispose_hidden (hidden : p.isShowing = false) :
    act .dispose (p, w) = ⟨.ok .done, (p.disposed, w), []⟩ :=
  Act.bind_run (dispose_hidden hidden) (Act.pure_run _ _) rfl

theorem act_dispose_showing (showing : p.isShowing = true) :
    ∃ w' waits logged, act .dispose (p, w) =
        ⟨.ok .done, (p.disposed, w'), .destroyWindow p.title :: (waits ++ logged)⟩ ∧
      (∀ e ∈ waits, ∃ key, e = .waitKey 1 key) ∧ Within [.journal] logged := by
  obtain ⟨w', waits, logged, step, waiting, within⟩ := dispose_destroying (w := w) showing
  refine ⟨w', waits, logged, ?_, waiting, within⟩
  exact Act.bind_run step (Act.pure_run _ _) (List.append_nil _).symm

/-- However the window is destroyed, the preview that is left is the same. -/
theorem act_dispose (p : Preview) (w : World) :
    (act .dispose (p, w)).answer = .ok .done ∧ (act .dispose (p, w)).state.1 = p.disposed := by
  cases showing : p.isShowing with
  | false =>
      rw [act_dispose_hidden showing]
      exact ⟨rfl, rfl⟩
  | true =>
      obtain ⟨w', waits, logged, step, -⟩ := act_dispose_showing (w := w) showing
      rw [step]
      exact ⟨rfl, rfl⟩

theorem isQuitKey_iff (key : Int) : isQuitKey key = true ↔ key % 256 = 27 ∨ key % 256 = 113 := by
  simp [isQuitKey]

theorem notIn_logged {e : Event} {logged : List Event} (within : Within [.journal] logged)
    (other : e.device ≠ .journal) : e ∉ logged :=
  fun member => other (List.mem_singleton.mp (within e member))

theorem closes_present (frame : Frame) (p : Preview) (w : World) :
    Closes (entry act (.present frame) (p, w)) ↔
      p.enabled = true ∧ isQuitKey (next (-1) w.scripts.keys).1 = true := by
  obtain ⟨w', logged, step, within⟩ := act_present (p := p) frame w
  have unlogged (delay : Nat) (key : Int) : .waitKey delay key ∉ logged :=
    notIn_logged within (by simp [Event.device])
  change (∃ delay key, .waitKey delay key ∈ (act (.present frame) (p, w)).trace ∧ _) ↔ _
  rw [step, isQuitKey_iff]
  cases enabled : p.enabled with
  | false => simp [showing, enabled, unlogged]
  | true => simp [showing, enabled, unlogged]

theorem closes_ask (p : Preview) (w : World) :
    Closes (entry act .ask (p, w)) ↔
      (p.enabled && !p.closed && p.shown) = true ∧ (next 1.0 w.scripts.visible).1 < 1.0 := by
  obtain ⟨w', logged, step, within⟩ := act_ask (p := p) w
  have unlogged (title : String) : .windowVisible title ∉ logged :=
    notIn_logged within (by simp [Event.device])
  change (∃ title, .windowVisible title ∈ (act .ask (p, w)).trace) ∧
    (next 1.0 w.scripts.visible).1 < 1.0 ↔ _
  rw [step]
  cases asks : p.enabled && !p.closed && p.shown with
  | false => simp [asking, asks, unlogged]
  | true => simp [asking, asks, unlogged]

theorem any_concat {P : Use → Prop} {use : Use} :
    (∃ u ∈ past ++ [use], P u) ↔ (∃ u ∈ past, P u) ∨ P use := by
  simp [or_and_right, exists_or]

/-- What a preview that once was `p` remembers of its diary. -/
structure Remembers (p : Preview) (past : List Use) (q : Preview) : Prop where
  title : q.title = p.title
  enabled : q.enabled = p.enabled
  closed : q.closed = true ↔ ∃ use ∈ past, Closes use
  shown : q.shown = true → Since Shows Disposes past
  hanging : q.shown = true → Since (IsShown p.title) IsDestroyed (eventsOf past)
  hidden : Since Disposes Presents past → q.shown = false
  paired : Preceded (IsShown p.title) IsDestroyed (eventsOf past)
  silent : p.enabled = false → ∀ e ∈ eventsOf past, e.device ≠ .window

theorem remembers_start (unshown : p.shown = false) (opened : p.closed = false) :
    Remembers p [] p where
  title := rfl
  enabled := rfl
  closed := by simp [opened]
  shown := by simp [unshown]
  hanging := by simp [unshown]
  hidden since := absurd since since_nil
  paired := preceded_nil
  silent := by simp

/-- A use that neither shows a frame nor disposes of the preview. -/
theorem Remembers.aside {use : Use} {q' : Preview} (remembers : Remembers p past q)
    (aside : ¬ Presents use ∧ ¬ Disposes use)
    (same : q'.title = q.title ∧ q'.enabled = q.enabled ∧ q'.shown = q.shown)
    (closed : q'.closed = true ↔ q.closed = true ∨ Closes use)
    (undestroyed : ∀ e ∈ use.ran.trace, ¬ IsDestroyed e)
    (silent : q.enabled = false → ∀ e ∈ use.ran.trace, e.device ≠ .window) :
    Remembers p (past ++ [use]) q' where
  title := same.1.trans remembers.title
  enabled := same.2.1.trans remembers.enabled
  closed := by rw [closed, remembers.closed, any_concat]
  shown isShown := since_concat.mpr (.inr ⟨remembers.shown (same.2.2 ▸ isShown), aside.2⟩)
  hanging isShown := by
    rw [eventsOf_concat]
    exact (remembers.hanging (same.2.2 ▸ isShown)).append undestroyed
  hidden since := by
    rw [same.2.2]
    rcases since_concat.mp since with disposes | ⟨earlier, -⟩
    · exact absurd disposes aside.2
    · exact remembers.hidden earlier
  paired := by
    rw [eventsOf_concat]
    exact remembers.paired.append undestroyed
  silent disabled e member := by
    rw [eventsOf_concat] at member
    rcases List.mem_append.mp member with old | new
    · exact remembers.silent disabled e old
    · exact silent (remembers.enabled.trans disabled) e new

theorem journal_undestroyed {logged : List Event} (within : Within [.journal] logged) :
    ∀ e ∈ logged, ¬ IsDestroyed e := by
  rintro e member ⟨title, rfl⟩
  exact notIn_logged within (by simp [Event.device]) member

theorem journal_silent {logged : List Event} (within : Within [.journal] logged) :
    ∀ e ∈ logged, e.device ≠ .window := by
  intro e member window
  exact notIn_logged within (by simp [window]) member

theorem remembers_ask (remembers : Remembers p past q) (w : World) :
    Remembers p (past ++ [entry act .ask (q, w)]) (act .ask (q, w)).state.1 := by
  have closes := closes_ask q w
  obtain ⟨w', logged, step, within⟩ := act_ask (p := q) w
  have trace : (entry act .ask (q, w)).ran.trace = q.asking ++ logged := by
    simp only [entry, step]
  rw [step]
  refine remembers.aside ⟨(by rintro ⟨frame, isAsk⟩; cases isAsk), nofun⟩ ⟨rfl, rfl, rfl⟩ ?_ ?_ ?_
  · rw [closes]
    cases enabled : q.enabled <;> cases closed : q.closed <;> cases shown : q.shown <;>
      simp [looksOpen, enabled, closed, shown]
  · rw [trace]
    intro e member
    rcases List.mem_append.mp member with asked | other
    · rintro ⟨title, rfl⟩
      unfold asking at asked
      split at asked
      · simp at asked
      · cases asked
    · exact journal_undestroyed within e other
  · rw [trace]
    intro disabled
    simp only [asking, disabled, Bool.false_and, Bool.false_eq_true, if_false, List.nil_append]
    exact journal_silent within

theorem remembers_correct (remembers : Remembers p past q) (frame : Frame) (w : World) :
    Remembers p (past ++ [entry act (.correct frame) (q, w)]) q := by
  refine remembers.aside ⟨(by rintro ⟨frame, isCorrect⟩; cases isCorrect), nofun⟩ ⟨rfl, rfl, rfl⟩
    ?_ nofun nofun
  exact (or_iff_left (b := Closes _) id).symm

theorem remembers_present (remembers : Remembers p past q) (frame : Frame) (w : World) :
    Remembers p (past ++ [entry act (.present frame) (q, w)])
      (act (.present frame) (q, w)).state.1 := by
  have closes := closes_present frame q w
  obtain ⟨w', logged, step, within⟩ := act_present (p := q) frame w
  have trace : (entry act (.present frame) (q, w)).ran.trace =
      q.showing frame w.scripts.keys ++ logged := by
    simp only [entry, step]
  have presents : Presents (entry act (.present frame) (q, w)) := ⟨frame, rfl⟩
  have kept : ¬ Disposes (entry act (.present frame) (q, w)) := nofun
  have undestroyed : ∀ e ∈ (entry act (.present frame) (q, w)).ran.trace, ¬ IsDestroyed e := by
    rw [trace]
    intro e member
    rcases List.mem_append.mp member with shown | other
    · rintro ⟨title, rfl⟩
      unfold showing at shown
      split at shown
      · simp at shown
      · cases shown
    · exact journal_undestroyed within e other
  rw [step]
  constructor
  case title => cases enabled : q.enabled <;> simp [afterFrame, enabled, remembers.title]
  case enabled =>
    cases enabled : q.enabled <;> simp [afterFrame, enabled, ← remembers.enabled]
  case closed =>
    rw [any_concat, closes, ← remembers.closed]
    cases enabled : q.enabled <;> simp [afterFrame, enabled]
  case shown =>
    intro isShown
    rw [since_concat]
    cases enabled : q.enabled with
    | false =>
        simp only [afterFrame, enabled, Bool.false_eq_true, if_false] at isShown
        exact .inr ⟨remembers.shown isShown, kept⟩
    | true =>
        refine .inl ⟨q.title, q.correct frame, ?_⟩
        rw [trace]
        simp [showing, enabled]
  case hanging =>
    intro isShown
    rw [eventsOf_concat]
    cases enabled : q.enabled with
    | false =>
        simp only [afterFrame, enabled, Bool.false_eq_true, if_false] at isShown
        exact (remembers.hanging isShown).append undestroyed
    | true =>
        rw [trace]
        simp only [showing, enabled, if_true, List.cons_append, List.nil_append]
        refine ⟨eventsOf past, _, _, rfl, ⟨q.correct frame, by rw [remembers.title]⟩, ?_⟩
        intro e member
        refine undestroyed e ?_
        rw [trace]
        simp only [showing, enabled, if_true, List.cons_append, List.nil_append]
        exact List.mem_cons_of_mem _ member
  case hidden =>
    intro since
    rcases since_concat.mp since with disposes | ⟨-, free⟩
    · exact absurd disposes kept
    · exact absurd presents free
  case paired =>
    rw [eventsOf_concat]
    exact remembers.paired.append undestroyed
  case silent =>
    intro disabled e member
    rw [eventsOf_concat, trace] at member
    simp only [showing, remembers.enabled.trans disabled, Bool.false_eq_true, if_false,
      List.nil_append] at member
    rcases List.mem_append.mp member with old | new
    · exact remembers.silent disabled e old
    · exact journal_silent within e new

/-- A window that is destroyed was there: the preview remembers that it showed it. -/
theorem remembers_dispose (remembers : Remembers p past q) (w : World) :
    Remembers p (past ++ [entry act .dispose (q, w)]) q.disposed := by
  have events :
      Preceded (IsShown p.title) IsDestroyed (eventsOf past ++ (act .dispose (q, w)).trace) ∧
        (p.enabled = false → ∀ e ∈ (act .dispose (q, w)).trace, e.device ≠ .window) := by
    cases showing : q.isShowing with
    | false =>
        rw [act_dispose_hidden showing]
        exact ⟨remembers.paired.append nofun, nofun⟩
    | true =>
        obtain ⟨enabled, isShown⟩ : q.enabled = true ∧ q.shown = true := by
          simpa [isShowing] using showing
        obtain ⟨w', waits, logged, step, waiting, within⟩ := act_dispose_showing (w := w) showing
        rw [step, ← List.singleton_append, ← List.append_assoc]
        refine ⟨(remembers.paired.concat fun _ => remembers.hanging isShown).append ?_, ?_⟩
        · intro e member
          rcases List.mem_append.mp member with waited | other
          · obtain ⟨key, rfl⟩ := waiting e waited
            rintro ⟨title, same⟩
            cases same
          · exact journal_undestroyed within e other
        · intro disabled
          rw [← remembers.enabled, enabled] at disabled
          cases disabled
  constructor
  case title => exact remembers.title
  case enabled => exact remembers.enabled
  case closed =>
    rw [any_concat]
    exact iff_of_true rfl (.inr trivial)
  case shown => nofun
  case hanging => nofun
  case hidden => exact fun _ => rfl
  case paired =>
    rw [eventsOf_concat]
    exact events.1
  case silent =>
    intro disabled e member
    rw [eventsOf_concat] at member
    rcases List.mem_append.mp member with old | new
    · exact remembers.silent disabled e old
    · exact events.2 disabled e new

theorem remembers_use (task : Task) (remembers : Remembers p past q) (w : World) :
    Remembers p (past ++ [entry act task (q, w)]) (act task (q, w)).state.1 := by
  cases task with
  | present frame => exact remembers_present remembers frame w
  | ask => exact remembers_ask remembers w
  | correct frame => exact remembers_correct remembers frame w
  | dispose =>
      rw [(act_dispose q w).2]
      exact remembers_dispose remembers w

theorem make_fresh {title : String} {gamma : Float} {enabled : Bool}
    (made : make title gamma enabled = .ok p) :
    p.title = title ∧ p.enabled = enabled ∧ p.shown = false ∧ p.closed = false := by
  unfold make at made
  split at made
  · cases made
    exact ⟨rfl, rfl, rfl, rfl⟩
  · split at made
    · cases made
      exact ⟨rfl, rfl, rfl, rfl⟩
    · cases made

/-- Asked again after anything that closed it, a preview does not look; before that it says what it
sees. -/
theorem ask_answers (remembers : Remembers p past q) (enabled : p.enabled = true) (w : World) :
    ∃ answer, (act .ask (q, w)).answer = .ok (.visible answer) ∧
      (answer = true ↔ ∀ use ∈ past ++ [entry act .ask (q, w)], ¬ Closes use) ∧
      ((∃ use ∈ past, Closes use) → ∀ title, .windowVisible title ∉ (act .ask (q, w)).trace) := by
  have closes := closes_ask q w
  obtain ⟨w', logged, step, within⟩ := act_ask (p := q) w
  have isEnabled : q.enabled = true := remembers.enabled.trans enabled
  refine ⟨q.looksOpen w.scripts.visible, by rw [step], ?_, ?_⟩
  · have noClose : (∀ use ∈ past ++ [entry act .ask (q, w)], ¬ Closes use) ↔
        ¬ ((∃ use ∈ past, Closes use) ∨ Closes (entry act .ask (q, w))) := by
      simp [or_imp, forall_and, not_or]
    rw [noClose, closes, ← remembers.closed]
    cases closed : q.closed <;> cases shown : q.shown <;>
      simp [looksOpen, isEnabled, closed, shown]
  · intro past title
    have closed := remembers.closed.mpr past
    rw [step]
    simp only [asking, closed, Bool.not_true, Bool.and_false, Bool.false_and, Bool.false_eq_true,
      if_false, List.nil_append]
    exact notIn_logged within (by simp [Event.device])

theorem asked_shown {title : String} {task : Task}
    (asked : .windowVisible title ∈ (act task (q, w)).trace) : q.shown = true := by
  cases task with
  | present frame =>
      obtain ⟨w', logged, step, within⟩ := act_present (p := q) frame w
      rw [step] at asked
      rcases List.mem_append.mp asked with shown | other
      · unfold showing at shown
        split at shown
        · simp at shown
        · cases shown
      · exact absurd other (notIn_logged within (by simp [Event.device]))
  | ask =>
      obtain ⟨w', logged, step, within⟩ := act_ask (p := q) w
      rw [step] at asked
      rcases List.mem_append.mp asked with looked | other
      · unfold asking at looked
        split at looked
        · rename_i asks
          exact (Bool.and_eq_true_iff.mp asks).2
        · cases looked
      · exact absurd other (notIn_logged within (by simp [Event.device]))
  | correct frame => cases asked
  | dispose =>
      cases showing : q.isShowing with
      | true => exact (Bool.and_eq_true_iff.mp showing).2
      | false =>
          rw [act_dispose_hidden showing] at asked
          cases asked

def destroying (reason : Option String) (w : World) : World :=
  { w with scripts := { w.scripts with destroyError := reason } }

/-- Any life of a preview. If it is enabled, it is visible exactly until a use closes it, and does
not look at its window any more from then on. It looks at its window only after a frame was shown
and before it was disposed of. A window is destroyed only after it was shown, and once; disposing of
the preview again changes nothing, and a window that cannot be destroyed makes no difference to the
preview. If it is not enabled, nothing ever reaches a window and it is visible. -/
theorem preview_life {title : String} {gamma : Float} {enabled : Bool}
    (made : make title gamma enabled = .ok p) (turns : List (Turn Task)) (w w' : World) :
    let past := diary act turns (p, w)
    let now := (leaves act turns (p, w)).1
    (enabled = true →
      ∃ answer, (act .ask (now, w')).answer = .ok (.visible answer) ∧
        (answer = true ↔ ∀ use ∈ past ++ [entry act .ask (now, w')], ¬ Closes use) ∧
        ((∃ use ∈ past, Closes use) →
          ∀ title, .windowVisible title ∉ (act .ask (now, w')).trace)) ∧
    (∀ task title, .windowVisible title ∈ (act task (now, w')).trace → Since Shows Disposes past) ∧
    (Preceded (IsShown title) IsDestroyed (eventsOf past) ∧
      (Since Disposes Presents past → act .dispose (now, w') = ⟨.ok .done, (now, w'), []⟩) ∧
      ∀ reason, (act .dispose (now, destroying reason w')).answer = .ok .done ∧
        (act .dispose (now, destroying reason w')).state.1 = (act .dispose (now, w')).state.1) ∧
    (enabled = false →
      (∀ e ∈ eventsOf past, e.device ≠ .window) ∧
        (act .ask (now, w')).answer = .ok (.visible true)) := by
  intro past now
  obtain ⟨rfl, rfl, unshown, opened⟩ := make_fresh made
  have remembers : Remembers p past now :=
    diary_holds (I := Remembers p)
      (fun past task object w remembers => remembers_use task remembers w) turns
      (remembers_start unshown opened)
  refine ⟨fun isEnabled => ask_answers remembers isEnabled w', ?_, ⟨remembers.paired, ?_, ?_⟩, ?_⟩
  · intro task title asked
    exact remembers.shown (asked_shown asked)
  · intro since
    have hidden : now.shown = false := remembers.hidden since
    have closed : now.closed = true := by
      obtain ⟨before, use, after, split, disposes, -⟩ := since
      refine remembers.closed.mpr ⟨use, by simp [split], ?_⟩
      unfold Closes
      rw [show use.task = .dispose from disposes]
      trivial
    have same : now.disposed = now := by
      rw [disposed, ← hidden, ← closed]
    rw [act_dispose_hidden (by simp [isShowing, hidden]), same]
  · intro reason
    rw [(act_dispose now w').2]
    exact act_dispose now (destroying reason w')
  · intro disabled
    refine ⟨remembers.silent disabled, ?_⟩
    obtain ⟨w'', logged, step, within⟩ := act_ask (p := now) w'
    rw [step]
    simp [looksOpen, remembers.enabled.trans disabled]

/-- A frame is shown and a key pressed that is the letter q in its lowest byte; then the window is
disposed of, and that fails. -/
def quitting : List (Turn Task) :=
  [{ meanwhile w := { w with scripts := { w.scripts with keys := [-143] } }
     task := .present (Frame.generate 1 1 3 fun _ _ _ => 0) },
    { meanwhile := destroying (some "no window"), task := .dispose }]

def plainPreview : Preview := { title := "Preview", enabled := true, table := none }

theorem preview_life_quitting :
    make "Preview" 1.0 true = .ok plainPreview ∧
      let past := diary act quitting (plainPreview, {})
      let now := (leaves act quitting (plainPreview, {})).1
      (∃ answer, (act .ask (now, {})).answer = .ok (.visible answer) ∧
        (answer = true ↔ ∀ use ∈ past ++ [entry act .ask (now, {})], ¬ Closes use)) ∧
      Preceded (IsShown "Preview") IsDestroyed (eventsOf past) ∧
      act .dispose (now, {}) = ⟨.ok .done, (now, {}), []⟩ := by
  have neutral : isNeutral 1.0 = true := by decide +kernel
  have made : make "Preview" 1.0 true = .ok plainPreview := by
    rw [make, if_pos neutral, plainPreview]
  obtain ⟨asked, -, ⟨paired, again, -⟩, -⟩ := preview_life made quitting {} {}
  obtain ⟨answer, isAnswer, iff, -⟩ := asked rfl
  have disposed : Since Disposes Presents (diary act quitting (plainPreview, {})) := by
    rw [quitting, diary, diary, diary]
    exact ⟨[_], _, [], rfl, rfl, by simp⟩
  exact ⟨made, ⟨answer, isAnswer, iff⟩, paired, again disposed⟩

end HatReel.Camera.Preview
