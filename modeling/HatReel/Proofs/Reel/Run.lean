import HatReel.Proofs.Reel.Loop
import HatReel.Proofs.Reel.Outcome
import HatReel.Proofs.Settings.Sound

/-! What a run that returns has done: how many frames it has handled, what it has written of them,
and what its stats say. -/

namespace HatReel.Reel

open HatReel.Camera HatReel.Files HatReel.Image HatReel.Log HatReel.Model HatReel.Rig

theorem onRecorder_start_ok {s s' : Stage} {r : Recorder} {t : List Event}
    (ran : Stage.onRecorder () Recorder.start s = ⟨.ok (), s', t⟩)
    (held : s.recorder = some r) :
    ∃ r' w, s' = { s with recorder := some r', world := w } ∧ Idle t ∧
      w.scripts = (Recorder.writerTaken s.world).scripts := by
  have started := Recorder.start_started r s.world
  rcases result : Recorder.start (r, s.world) with ⟨answer, ⟨r', w⟩, u⟩
  rw [result] at started
  rw [Stage.onRecorder_run () held result] at ran
  cases ran
  cases started with
  | opened code writer w t scripts within =>
      have logged : Idle t := within.idle (by decide) (by decide) (by decide)
      exact ⟨_, w, rfl, idle_append (t := [r.opening code]) ⟨rfl, rfl, rfl⟩ logged, scripts⟩

/-- What the body of a run has done that returns: it has sized everything by the first frame, and
filmed those that come after it. -/
theorem body_ok {demo : Demo} {s s' : Stage} {stats : Stats} {t : List Event}
    {reads : List (Option Frame)} (ran : body demo s = ⟨.ok stats, s', t⟩)
    (capturing : s.grabber.capture = some ⟨reads⟩)
    (positive : ∀ n ∈ demo.config.run.maxFrames, 1 ≤ n) :
    ∃ p first frames rotation shots u, makePreview demo = .ok p ∧
      delivered reads = first :: frames ∧
      (drawRotation demo.config (frameSize first) s.world).answer = .ok rotation ∧
      Films demo.config rotation frames s.world.scripts.faces shots ∧
      t = .captureRead true :: u ∧
      Accounts shots { output := Path.ofText demo.config.recorder.path } stats u ∧
      shots.length = demo.config.limit 0
        (p.openChecks s.world.scripts.keys s.world.scripts.visible frames.length) := by
  unfold body at ran
  obtain ⟨_, rest, rfl⟩ := Act.bind_rest ran (Stage.onGrabber_run (Grabber.grab_held capturing))
  cases read : (next none reads).1 with
  | none =>
      simp only [read] at rest
      cases rest
  | some first =>
      simp only [read] at rest
      obtain ⟨come, _⟩ := delivered_of_some read
      obtain ⟨_, _, sizing, _, sized, rest₁, rfl⟩ := Act.bind_ok rest
      obtain ⟨w₁, logged₁, rfl⟩ := Act.on_ok sized
      have logs₁ := log_ok logged₁
      obtain ⟨_, rest₂, rfl⟩ := Act.bind_rest rest₁ (Act.modify_run _ _)
      obtain ⟨_, _, starting, _, started, rest₃, rfl⟩ := Act.bind_ok rest₂
      obtain ⟨r, w₂, rfl, startIdle, scripts₂⟩ := onRecorder_start_ok started rfl
      obtain ⟨p, _, _, _, made, rest₄, rfl⟩ := Act.bind_ok rest₃
      obtain ⟨isPreview, rfl, rfl⟩ := Act.ofExcept_ok made
      obtain ⟨_, rest₅, rfl⟩ := Act.bind_rest rest₄ (Act.modify_run _ _)
      obtain ⟨rotation, _, _, _, turned, rest₆, rfl⟩ := Act.bind_ok rest₅
      obtain ⟨_, turned₁, rfl⟩ := Act.on_ok turned
      have entropy : w₂.scripts.entropy = s.world.scripts.entropy := by
        rw [scripts₂, Recorder.writerTaken, logs₁.scripts]
      have drawn := drawRotation_entropy demo.config (frameSize first) entropy
      have unchanged := drawRotation_same demo.config (frameSize first) w₂
      rw [frameSize, turned₁] at drawn unchanged
      obtain ⟨rfl, rfl⟩ := unchanged
      obtain ⟨_, rest₇, rfl⟩ := Act.bind_rest rest₆ (Act.modify_run _ _)
      obtain ⟨_, _, telling, _, told, rest₈, rfl⟩ := Act.bind_ok rest₇
      obtain ⟨w₃, logged₃, rfl⟩ := Act.on_ok told
      have logs₃ := log_ok logged₃
      obtain ⟨start, w₄, clocked, clock, scripts₄⟩ := readClock_run w₃
      obtain ⟨_, rest₉, rfl⟩ := Act.bind_rest rest₈ (Stage.onWorld_run clocked)
      rw [Act.get_bind] at rest₉
      obtain ⟨stats₁, s₁, filming, _, looped, restₐ, rfl⟩ := Act.bind_ok rest₉
      have none_done : ∀ n ∈ demo.config.run.maxFrames, ((0 : Nat) : Int) < n := positive
      obtain ⟨shots, films, counted, count⟩ :=
        loop_ok _ looped rfl rfl rfl (Nat.lt_succ_self _) none_done
      obtain ⟨time, w₅, clocked₅, _⟩ := readClock_run s₁.world
      obtain ⟨_, ended, rfl⟩ := Act.bind_rest restₐ (Stage.onWorld_run clocked₅)
      obtain ⟨rfl, rfl, rfl⟩ := Act.pure_ok ended
      have scripts :
          w₄.scripts = { (Recorder.writerTaken s.world).scripts with clock := clock } := by
        rw [scripts₄, logs₃.scripts, scripts₂, Recorder.writerTaken, logs₁.scripts]
        rfl
      rw [scripts] at films count
      have before : Idle (sizing ++ (starting ++ telling)) :=
        idle_append logs₁.idle (idle_append startIdle logs₃.idle)
      have timed : Accounts [] stats₁ { stats₁ with elapsed := time - start } [] :=
        ⟨rfl, rfl, rfl, rfl, rfl, rfl⟩
      have all := accounts_append (accounts_idle _ before) (accounts_append counted timed)
      refine ⟨p, first, _, rotation, shots, _, isPreview, come, drawn.symm, films, rfl, ?_, count⟩
      simpa using all

/-- A run that returns has made shots of the frames behind the first one, and before and after that
it has neither read a frame nor searched nor written one. -/
theorem run_shots {demo demo' : Demo} {w w' : World} {stats : Stats} {t : List Event}
    (read : demo.config.IsRead) (ran : run (demo, w) = ⟨.ok stats, (demo', w'), t⟩) :
    ∃ (p : Preview) (first : Frame) (frames : List Frame) (rotation : Matrix Float)
      (shots : List Shot) (before u after : List Event),
      makePreview demo = .ok p ∧ (Grabber.nextCapture w).opens = true ∧
      delivered (Grabber.nextCapture w).reads = first :: frames ∧
      (drawRotation demo.config (frameSize first) w).answer = .ok rotation ∧
      Films demo.config rotation frames w.scripts.faces shots ∧
      shots.length = demo.config.limit 0
        (p.openChecks w.scripts.keys w.scripts.visible frames.length) ∧
      Accounts shots { output := Path.ofText demo.config.recorder.path } stats u ∧
      t = before ++ ([.captureRead true] ++ (u ++ after)) ∧ Idle before ∧ Idle after := by
  have outcome := run_outcome demo w
  rw [ran] at outcome
  cases outcome with
  | ended w₁ w₂ w₃ w₄ s answer loading starting filming t₁ t₂ t₃ summing responses fetches opens
      scripts within quiet unread filmed attempted releases logs =>
      obtain ⟨p, first, frames, rotation, shots, u, isPreview, come, drawn, films, rfl, counted,
        count⟩ := body_ok filmed rfl read.sound.maxFrames
      have started : Idle starting := ⟨writes_within within (by decide),
        searches_within within (by decide), unread⟩
      have before : Idle (loading ++ (.captureOpen demo.grabber.source :: starting)) :=
        idle_append fetches.idle (idle_append (t := [_]) ⟨rfl, rfl, rfl⟩ started)
      have after : Idle ((t₁ ++ (t₂ ++ t₃)) ++ summing) :=
        idle_append releases.idle logs.idle
      have entropy : w₂.scripts.entropy = w.scripts.entropy := by
        rw [scripts]
        rfl
      have drawn₁ := (drawRotation_entropy demo.config (frameSize first) entropy).symm.trans drawn
      change Films demo.config rotation frames w₂.scripts.faces shots at films
      change shots.length = demo.config.limit 0
        (p.openChecks w₂.scripts.keys w₂.scripts.visible frames.length) at count
      rw [scripts] at films count
      refine ⟨p, first, frames, rotation, shots, _, u, _, isPreview, opens, come, drawn₁, films,
        count, counted, ?_, before, after⟩
      simp only [List.append_assoc, List.cons_append, List.nil_append]

/-- A run that returns has handled as many frames as came after the first, as it may handle, or as
the preview was open for, whichever is least. It has written one picture for each of them, in order,
warped by one rotation, and has read no frame more. -/
theorem run_filmed {demo demo' : Demo} {w w' : World} {stats : Stats} {t : List Event}
    (read : demo.config.IsRead) (ran : run (demo, w) = ⟨.ok stats, (demo', w'), t⟩) :
    ∃ (p : Preview) (first : Frame) (frames : List Frame) (rotation : Matrix Float)
      (shots : List Shot),
      makePreview demo = .ok p ∧ (Grabber.nextCapture w).opens = true ∧
      delivered (Grabber.nextCapture w).reads = first :: frames ∧
      (drawRotation demo.config (frameSize first) w).answer = .ok rotation ∧
      stats.frames = demo.config.limit 0
        (p.openChecks w.scripts.keys w.scripts.visible frames.length) ∧
      shots.length = stats.frames ∧ Films demo.config rotation frames w.scripts.faces shots ∧
      writes t = shots.map Shot.picture ∧
      searches t = shots.map Shot.gray ∧
      stats.faces = (shots.map Shot.faces).sum ∧
      stats.contours = (shots.map Shot.contours).sum ∧ goodReads t = stats.frames + 1 := by
  obtain ⟨p, first, frames, rotation, shots, before, u, after, isPreview, opens, come, drawn, films,
    count, counted, rfl, idle, idleAfter⟩ := run_shots read ran
  have frames_eq : stats.frames = shots.length := counted.frames.trans (Nat.zero_add _)
  have faces_eq : stats.faces = (shots.map Shot.faces).sum := counted.faces.trans (Nat.zero_add _)
  have contours_eq : stats.contours = (shots.map Shot.contours).sum :=
    counted.contours.trans (Nat.zero_add _)
  refine ⟨p, first, frames, rotation, shots, isPreview, opens, come, drawn, frames_eq.trans count,
    frames_eq.symm, films, ?_, ?_, faces_eq, contours_eq, ?_⟩
  · rw [writes_append, writes_append, writes_append, idle.written, idleAfter.written,
      counted.written, List.append_nil]
    rfl
  · rw [searches_append, searches_append, searches_append, idle.searched, idleAfter.searched,
      counted.searched, List.append_nil]
    rfl
  · rw [goodReads_append, goodReads_append, goodReads_append, idle.unread, idleAfter.unread,
      counted.reads, frames_eq]
    have one : goodReads [.captureRead true] = 1 := rfl
    omega

theorem shortConfig_isRead : shortConfig.IsRead :=
  ⟨[(.text "warp", .map [(.text "seed", .int 1)]),
    (.text "run", .map [(.text "max_frames", .int 2)])], rfl⟩

def litFrame : Frame :=
  Frame.generate 7 5 3 fun x y _ => if 5 ≤ x ∧ 3 ≤ y then 200 else 0

def stillConfig : Config := { run := ⟨some 2⟩, warp := { spread := 0.0, seed := some 1 } }

def stillDemo : Demo := { shortDemo with config := stillConfig }

/-- A world in which every picture is lit; a face is found in the first one that is searched. -/
def litWorld : World where
  scripts := {
    captures := [⟨true, List.replicate 4 (some litFrame)⟩]
    faces := [some [⟨1, 2, 2, 2⟩]] }
  files := { entries := [(["", "m.xml"], .file [])] }

/-- The colours on the box of the face, on its hat, and on the contour of the bright square. -/
def marks (f : Frame) : List Colour :=
  [(2, 4), (2, 2), (5, 4)].map fun (x, y) => ⟨f.byte x y 0, f.byte x y 1, f.byte x y 2⟩

/-- The first picture written has a face and a contour drawn on it, the second one a contour only.
The pictures that were searched had nothing drawn on them. -/
theorem run_filmed_lit :
    ∃ stats demo w t, ∃ shots : List Shot,
      run (stillDemo, litWorld) = ⟨.ok stats, (demo, w), t⟩ ∧ stillDemo.config.IsRead ∧
      stats.frames = 2 ∧ stats.faces = 1 ∧ stats.contours = 2 ∧ goodReads t = 3 ∧
      (shots.map Shot.faces).sum = 1 ∧ (shots.map Shot.contours).sum = 2 ∧
      writes t = shots.map Shot.picture ∧ searches t = shots.map Shot.gray ∧
      (shots.map fun shot => marks shot.picture) =
        [[⟨0, 0, 235⟩, green, blue], [⟨0, 0, 0⟩, ⟨0, 0, 0⟩, blue]] ∧
      (shots.map fun shot => marks shot.gray) =
        List.replicate 2 [⟨0, 0, 0⟩, ⟨0, 0, 0⟩, ⟨200, 0, 0⟩] := by
  have read : stillDemo.config.IsRead :=
    ⟨[(.text "warp", .map [(.text "spread", .float 0.0), (.text "seed", .int 1)]),
      (.text "run", .map [(.text "max_frames", .int 2)])], rfl⟩
  obtain ⟨counts, pictures, grays⟩ :
      ((run (stillDemo, litWorld)).answer.toOption.map fun s => (s.frames, s.faces, s.contours)) =
          some (2, 1, 2) ∧
        (writes (run (stillDemo, litWorld)).trace).map marks =
          [[⟨0, 0, 235⟩, green, blue], [⟨0, 0, 0⟩, ⟨0, 0, 0⟩, blue]] ∧
        (searches (run (stillDemo, litWorld)).trace).map marks =
          List.replicate 2 [⟨0, 0, 0⟩, ⟨0, 0, 0⟩, ⟨200, 0, 0⟩] := by decide +kernel
  rcases ran : run (stillDemo, litWorld) with ⟨_ | stats, ⟨demo, w⟩, t⟩ <;>
    rw [ran] at counts pictures grays
  · cases counts
  · obtain ⟨_, _, _, _, shots, _, _, _, _, _, _, _, written, searched, faces, contours, reads⟩ :=
      run_filmed read ran
    obtain ⟨framesTwo, facesOne, contoursTwo⟩ :
        stats.frames = 2 ∧ stats.faces = 1 ∧ stats.contours = 2 := by
      simpa [Except.toOption] using counts
    rw [written, List.map_map] at pictures
    rw [searched, List.map_map] at grays
    rw [framesTwo] at reads
    exact ⟨stats, demo, w, t, shots, rfl, read, framesTwo, facesOne, contoursTwo, reads,
      faces.symm.trans facesOne, contours.symm.trans contoursTwo, written, searched, pictures,
      grays⟩

end HatReel.Reel
