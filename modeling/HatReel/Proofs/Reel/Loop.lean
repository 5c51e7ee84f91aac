import Mathlib
import HatReel.Proofs.Reel.Stage

/-! What a loop over frames amounts to.

A loop that ends well has handled the frames that were to come one after another. It ends at the
first frame that does not come, the first time that the preview is not open, or when enough frames
are done, whichever is reached first. The induction is on the fuel, which the reads to come
bound. -/

namespace HatReel.Camera

open HatReel.Image

/-- The frames that come before the first read that fails. -/
def delivered : List (Option Frame) → List Frame
  | some frame :: rest => frame :: delivered rest
  | _ => []

/-- How many of the next `n` checks in a row find a preview open that shows a frame after each of
them, for these keys and answers to come. -/
def Preview.openChecks (p : Preview) (keys : List Int) (answers : List Float) : Nat → Nat
  | 0 => 0
  | n + 1 =>
    if p.looksOpen answers then
      (p.afterFrame keys).openChecks (p.keysLeft keys) (p.answersLeft answers) n + 1
    else 0

theorem Preview.openChecks_closed {p : Preview} {answers : List Float}
    (closed : p.looksOpen answers = false) (keys : List Int) (n : Nat) :
    p.openChecks keys answers n = 0 := by
  cases n with
  | zero => rfl
  | succ n => rw [openChecks, closed, if_neg Bool.false_ne_true]

theorem Preview.openChecks_zero (p : Preview) (keys : List Int) (answers : List Float) :
    p.openChecks keys answers 0 = 0 := rfl

theorem Preview.openChecks_succ {p : Preview} {answers : List Float}
    (isOpen : p.looksOpen answers = true) (keys : List Int) (n : Nat) :
    p.openChecks keys answers (n + 1) =
      (p.afterFrame keys).openChecks (p.keysLeft keys) (p.answersLeft answers) n + 1 := by
  rw [openChecks, isOpen, if_pos rfl]

end HatReel.Camera

namespace HatReel

def Config.limit (c : Config) (done n : Nat) : Nat :=
  match c.run.maxFrames with
  | none => n
  | some most => min n (most - done).toNat

theorem Config.limit_zero (c : Config) (done : Nat) : c.limit done 0 = 0 := by
  unfold Config.limit
  split
  · rfl
  · exact Nat.zero_min _

theorem Config.limit_reached {c : Config} {done : Nat}
    (reached : c.run.maxFrames = some ((done + 1 : Nat) : Int)) (n : Nat) :
    c.limit done (n + 1) = 1 := by
  unfold Config.limit
  rw [reached]
  have one : (((done + 1 : Nat) : Int) - done).toNat = 1 := by omega
  simp only [one]
  omega

theorem Config.limit_succ {c : Config} {done : Nat}
    (more : ∀ most ∈ c.run.maxFrames, ((done + 1 : Nat) : Int) < most) (n : Nat) :
    c.limit done (n + 1) = c.limit (done + 1) n + 1 := by
  unfold Config.limit
  cases isMost : c.run.maxFrames with
  | none => rfl
  | some most =>
      have above := more most isMost
      simp only
      omega

end HatReel

namespace HatReel.Reel

open HatReel.Camera HatReel.Draw HatReel.Image HatReel.Log HatReel.Model HatReel.Rig

/-- The shots are those of the first of these frames, in order, each with the faces found in it. -/
def Films (config : Config) (rotation : Matrix Float) (frames : List Frame)
    (found : List (Option (List Rect))) (shots : List Shot) : Prop :=
  ∀ (k : Nat) (shot : Shot), shots[k]? = some shot →
    ∃ frame faces, frames[k]? = some frame ∧ found.getD k (some []) = some faces ∧
      shoot? config rotation frame faces = some shot

section

variable {config : Config} {rotation : Matrix Float} {frames : List Frame}
  {found : List (Option (List Rect))}

theorem films_nil : Films config rotation frames found [] := by
  intro k shot inside
  cases inside

theorem films_cons {frame : Frame} {faces : List Rect} {shot : Shot} {shots : List Shot}
    (come : (next (some []) found).1 = some faces)
    (first : shoot? config rotation frame faces = some shot)
    (rest : Films config rotation frames (next (some []) found).2 shots) :
    Films config rotation (frame :: frames) found (shot :: shots) := by
  intro k other inside
  cases k with
  | zero =>
      cases inside
      refine ⟨frame, faces, rfl, ?_, first⟩
      cases found <;> exact come
  | succ k =>
      obtain ⟨later, rects, there, here, shown⟩ := rest k other inside
      refine ⟨later, rects, there, ?_, shown⟩
      cases found <;> exact here

end

/-- The shots are counted in the stats; as many reads have given a frame, and the shots' grays have
been searched and their pictures written in the same order. -/
structure Accounts (shots : List Shot) (before after : Stats) (t : List Event) : Prop where
  frames : after.frames = before.frames + shots.length
  faces : after.faces = before.faces + (shots.map Shot.faces).sum
  contours : after.contours = before.contours + (shots.map Shot.contours).sum
  reads : goodReads t = shots.length
  searched : searches t = shots.map Shot.gray
  written : writes t = shots.map Shot.picture

theorem accounts_idle (stats : Stats) {t : List Event} (idle : Idle t) :
    Accounts [] stats stats t := ⟨rfl, rfl, rfl, idle.unread, idle.searched, idle.written⟩

theorem accounts_append {first second : List Shot} {before middle after : Stats}
    {t u : List Event} (one : Accounts first before middle t)
    (two : Accounts second middle after u) :
    Accounts (first ++ second) before after (t ++ u) where
  frames := by rw [two.frames, one.frames, List.length_append, Nat.add_assoc]
  faces := by rw [two.faces, one.faces, List.map_append, List.sum_append, Nat.add_assoc]
  contours := by
    rw [two.contours, one.contours, List.map_append, List.sum_append, Nat.add_assoc]
  reads := by rw [goodReads_append, one.reads, two.reads, List.length_append]
  searched := by rw [searches_append, one.searched, two.searched, List.map_append]
  written := by rw [writes_append, one.written, two.written, List.map_append]

theorem isEnough_some {config : Config} {stats : Stats} {n : Int}
    (enough : isEnough config stats = some n) :
    config.run.maxFrames = some n ∧ n ≤ (stats.frames : Int) := by
  obtain ⟨isMax, reached⟩ := Option.filter_eq_some_iff.mp enough
  exact ⟨isMax, of_decide_eq_true reached⟩

theorem isEnough_none {config : Config} {stats : Stats}
    (more : isEnough config stats = none) :
    ∀ n ∈ config.run.maxFrames, (stats.frames : Int) < n := by
  intro n isMax
  have notReached := Option.filter_eq_none_iff.mp more n isMax
  simpa using notReached

def scriptsAfter (p : Preview) (scripts : Scripts) : Scripts :=
  { scripts with faces := (next (some []) scripts.faces).2, keys := p.keysLeft scripts.keys }

theorem handle_ok {config : Config} {rotation : Matrix Float} {frame : Frame}
    {stats stats' : Stats} {s s' : Stage} {t : List Event} {p : Preview}
    (ran : handle config rotation frame stats s = ⟨.ok stats', s', t⟩)
    (held : s.preview = some p) (recording : s.recorder.isSome = true) :
    ∃ shot faces, nextFound s.world = some faces ∧
      shoot? config rotation frame faces = some shot ∧
      Accounts [shot] stats stats' (.captureRead true :: t) ∧ s'.grabber = s.grabber ∧
      s'.preview = some (p.afterFrame s.world.scripts.keys) ∧ s'.recorder.isSome = true ∧
      s'.world.scripts = scriptsAfter p s.world.scripts := by
  obtain ⟨recorder, isRecorder⟩ := Option.isSome_iff_exists.mp recording
  obtain ⟨done, _, _, _, process_ran, rest, rfl⟩ := Act.bind_ok ran
  obtain ⟨_, processed, rfl⟩ := Act.on_ok process_ran
  obtain ⟨gray, faces, come, shown, rfl, rfl⟩ := process_ok processed
  obtain ⟨w, u, presented, scripts, within, _, _⟩ :=
    Preview.present_run p done.warped (facesTaken s.world)
  obtain ⟨_, rest₁, rfl⟩ := Act.bind_rest rest (Stage.onPreview_run () held presented)
  obtain ⟨_, _, _, _, record_ran, rest₂, rfl⟩ := Act.bind_ok rest₁
  have recorded := Recorder.record_recorded recorder w done.warped
  rcases result : Recorder.record done.warped (recorder, w) with ⟨answer, ⟨last, world⟩, v⟩
  have recordStep : Stage.onRecorder () (Recorder.record done.warped)
      { s with preview := some (p.afterFrame s.world.scripts.keys), world := w } = _ :=
    Stage.onRecorder_run () isRecorder result
  have ended := recordStep.symm.trans record_ran
  rw [result] at recorded
  cases recorded with
  | refused fault => cases ended
  | broken => cases ended
  | written writer writer' held =>
      cases ended
      obtain ⟨rfl, rfl, rfl⟩ := Act.pure_ok rest₂
      have idle : Idle u := within.idle (by decide) (by decide) (by decide)
      refine ⟨⟨gray, done.warped, done.faces, done.contours⟩, faces, come, shown,
        ⟨rfl, rfl, rfl, ?_, ?_, ?_⟩, rfl, rfl, rfl, scripts⟩
      · change goodReads ([.captureRead true, search config.classifier gray] ++ (u ++ _)) = 1
        rw [goodReads_append, goodReads_append, idle.unread]
        rfl
      · change searches ([.captureRead true, search config.classifier gray] ++ (u ++ _)) = _
        rw [searches_append, searches_append, idle.searched]
        rfl
      · change writes ([.captureRead true, search config.classifier gray] ++ (u ++ _)) = _
        rw [writes_append, writes_append, idle.written]
        rfl

theorem delivered_of_none {reads : List (Option Frame)} (missing : (next none reads).1 = none) :
    delivered reads = [] := by
  cases reads with
  | nil => rfl
  | cons read rest =>
      cases missing
      rfl

theorem delivered_of_some {reads : List (Option Frame)} {frame : Frame}
    (comes : (next none reads).1 = some frame) :
    delivered reads = frame :: delivered (next none reads).2 ∧
      (next none reads).2.length < reads.length := by
  cases reads with
  | nil => cases comes
  | cons read rest =>
      cases comes
      exact ⟨rfl, Nat.lt_succ_self _⟩

def rest (config : Config) (rotation : Matrix Float) (fuel : Nat) (stats : Stats) (frame : Frame) :
    Act Stage Stats := do
  let stats ← handle config rotation frame stats
  match isEnough config stats with
  | some n =>
    Stage.onWorld (log .info loggerName s!"Reached max_frames={n}")
    return stats
  | none => loop config rotation fuel stats

/-- The stage of an open preview when a frame has been read: these reads are left, and so is this
world. -/
def Stage.reading (s : Stage) (p : Preview) (left : List (Option Frame)) (w : World) : Stage :=
  { s with grabber := { s.grabber with capture := some ⟨left⟩ }, preview := some p, world := w }

section

variable {config : Config} {rotation : Matrix Float} {fuel : Nat} {stats : Stats} {s : Stage}
  {p : Preview} {reads : List (Option Frame)} {frame : Frame}

/-- A round of a loop ends it if the preview is not open or no frame comes; otherwise it reads the
next frame and goes on with it. -/
inductive Round (config : Config) (rotation : Matrix Float) (fuel : Nat) (stats : Stats) (s : Stage)
    (p : Preview) (reads : List (Option Frame)) : Ran Stage Stats → Prop where
  | closed (s' : Stage) (t : List Event) (shut : p.looksOpen s.world.scripts.visible = false)
      (idle : Idle t) : Round config rotation fuel stats s p reads ⟨.ok stats, s', t⟩
  | spent (s' : Stage) (t : List Event) (drained : delivered reads = []) (idle : Idle t) :
      Round config rotation fuel stats s p reads ⟨.ok stats, s', t⟩
  | read (answer : Except Fault Stats) (s' : Stage) (asked u : List Event) (frame : Frame)
      (left : List (Option Frame)) (w : World)
      (isOpen : p.looksOpen s.world.scripts.visible = true)
      (come : delivered reads = frame :: delivered left) (fewer : left.length < reads.length)
      (scripts : w.scripts =
        { s.world.scripts with visible := p.answersLeft s.world.scripts.visible })
      (idle : Idle asked)
      (after : rest config rotation fuel stats frame (s.reading p left w) = ⟨answer, s', u⟩) :
      Round config rotation fuel stats s p reads ⟨answer, s', asked ++ (.captureRead true :: u)⟩

theorem loop_round (config : Config) (rotation : Matrix Float) (fuel : Nat) (stats : Stats)
    (capturing : s.grabber.capture = some ⟨reads⟩) (held : s.preview = some p) :
    Round config rotation fuel stats s p reads (loop config rotation (fuel + 1) stats s) := by
  obtain ⟨p', w, asked, isVisible, isLeft, scripts, within, -, -⟩ :=
    Preview.isVisible_run p s.world
  have idle : Idle asked := within.idle (by decide) (by decide) (by decide)
  rcases ran : loop config rotation (fuel + 1) stats s with ⟨answer, s', t⟩
  obtain ⟨u, afterAsked, rfl⟩ := Act.bind_rest ran (Stage.onPreview_run true held isVisible)
  cases isOpen : p.looksOpen s.world.scripts.visible with
  | false =>
      simp only [isOpen] at afterAsked
      cases afterAsked
      exact .closed _ _ isOpen (idle_append idle idle_nil)
  | true =>
      simp only [isOpen] at afterAsked
      obtain ⟨v, afterRead, rfl⟩ :=
        Act.bind_rest afterAsked (Stage.onGrabber_run (Grabber.grab_held capturing))
      cases read : (next none reads).1 with
      | none =>
          simp only [read] at afterRead
          cases afterRead
          exact .spent _ _ (delivered_of_none read) (idle_append idle ⟨rfl, rfl, rfl⟩)
      | some frame =>
          simp only [read] at afterRead
          obtain ⟨come, fewer⟩ := delivered_of_some read
          have same : p' = p := by
            rw [isLeft, isOpen, Bool.not_true, Bool.or_false]
          subst same
          exact .read answer s' asked v frame _ w isOpen come fewer scripts idle afterRead

theorem rest_failed {fault : Fault} {s₁ : Stage} {t : List Event}
    (failed : handle config rotation frame stats s = ⟨.error fault, s₁, t⟩) :
    rest config rotation fuel stats frame s = ⟨.error fault, s₁, t⟩ :=
  Act.bind_of_error _ failed

/-- Once a frame has been handled the loop ends if that is enough, and says so, or it goes on. -/
theorem rest_handled (fuel : Nat) {stats₁ : Stats} {s₁ : Stage} {t : List Event}
    (handled : handle config rotation frame stats s = ⟨.ok stats₁, s₁, t⟩) :
    (∃ n w logged, config.run.maxFrames = some n ∧ n ≤ (stats₁.frames : Int) ∧
      Logs s₁.world logged w ∧ rest config rotation fuel stats frame s =
        ⟨.ok stats₁, { s₁ with world := w }, t ++ logged⟩) ∨
    (∀ n ∈ config.run.maxFrames, (stats₁.frames : Int) < n) ∧
      rest config rotation fuel stats frame s = (loop config rotation fuel stats₁ s₁).after t := by
  unfold rest
  rw [Act.bind_of_ok _ handled]
  cases enough : isEnough config stats₁ with
  | some n =>
      obtain ⟨isMax, reached⟩ := isEnough_some enough
      obtain ⟨w, logged, step, logs⟩ :=
        log_run .info loggerName s!"Reached max_frames={n}" s₁.world
      refine .inl ⟨n, w, logged, isMax, reached, logs, ?_⟩
      simp only
      rw [Act.bind_of_ok _ (Stage.onWorld_run step), Act.pure_run]
      simp only [Ran.after, List.append_nil]
  | none => exact .inr ⟨isEnough_none enough, rfl⟩

end

/-- By induction on the fuel: a round handles one frame at most and leaves the rest to those that
follow. -/
theorem loop_ok {config : Config} {rotation : Matrix Float} (fuel : Nat) {stats stats' : Stats}
    {s s' : Stage} {t : List Event} {p : Preview} {reads : List (Option Frame)}
    (ran : loop config rotation fuel stats s = ⟨.ok stats', s', t⟩)
    (capturing : s.grabber.capture = some ⟨reads⟩) (held : s.preview = some p)
    (recording : s.recorder.isSome = true) (enoughFuel : reads.length < fuel)
    (more : ∀ n ∈ config.run.maxFrames, (stats.frames : Int) < n) :
    ∃ shots, Films config rotation (delivered reads) s.world.scripts.faces shots ∧
      Accounts shots stats stats' t ∧
      shots.length = config.limit stats.frames (p.openChecks s.world.scripts.keys
        s.world.scripts.visible (delivered reads).length) := by
  induction fuel generalizing stats stats' s s' t p reads with
  | zero => cases enoughFuel
  | succ fuel ih =>
      have round := loop_round config rotation fuel stats capturing held
      rw [ran] at round
      cases round with
      | closed s' t shut idle =>
          refine ⟨[], films_nil, accounts_idle stats idle, ?_⟩
          rw [Preview.openChecks_closed shut, Config.limit_zero, List.length_nil]
      | spent s' t drained idle =>
          refine ⟨[], films_nil, accounts_idle stats idle, ?_⟩
          rw [drained, List.length_nil, List.length_nil, Preview.openChecks_zero, Config.limit_zero]
      | read answer s' asked u frame left w isOpen come fewer scripts idle after =>
          rw [come, List.length_cons, Preview.openChecks_succ isOpen]
          rcases handled : handle config rotation frame stats (s.reading p left w) with
            ⟨fault | stats₁, s₁, v⟩
          · rw [rest_failed handled] at after
            cases after
          obtain ⟨shot, found, here, shown, counted, grabber, held₁, recording₁, scripts₁⟩ :=
            handle_ok handled rfl recording
          change (next (some []) w.scripts.faces).1 = some found at here
          change s₁.preview = some (p.afterFrame w.scripts.keys) at held₁
          change s₁.world.scripts = scriptsAfter p w.scripts at scripts₁
          rw [scripts] at here held₁ scripts₁
          rcases rest_handled fuel handled with
            ⟨n, w₁, logged, isMax, reached, logs, ended⟩ | ⟨notEnough, goes⟩
          · rw [ended] at after
            cases after
            have isLast : config.run.maxFrames = some ((stats.frames + 1 : Nat) : Int) := by
              have notBefore := more n isMax
              have grown : stats'.frames = stats.frames + 1 := counted.frames
              rw [isMax]
              congr 1
              omega
            refine ⟨[shot], films_cons here shown films_nil, ?_, ?_⟩
            · exact accounts_append (accounts_idle stats idle)
                (accounts_append counted (accounts_idle stats' logs.idle))
            · rw [Config.limit_reached isLast]
              rfl
          · rcases looped : loop config rotation fuel stats₁ s₁ with ⟨result, last, v'⟩
            rw [goes, looped] at after
            cases after
            obtain ⟨shots, films, counted₁, count⟩ :=
              ih looped (by rw [grabber]; rfl) held₁ recording₁ (by omega) notEnough
            have grown : stats₁.frames = stats.frames + 1 := counted.frames
            rw [scripts₁] at films count
            rw [grown] at count notEnough
            refine ⟨shot :: shots, films_cons here shown films, ?_, ?_⟩
            · exact accounts_append (accounts_idle stats idle) (accounts_append counted counted₁)
            · rw [List.length_cons, Config.limit_succ notEnough, count]
              rfl

end HatReel.Reel
