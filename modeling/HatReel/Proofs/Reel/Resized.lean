import HatReel.Proofs.Reel.Sizes

/-! What becomes of a run when a frame of another size comes.

The run goes on until it reads that frame, and ends with it: either nothing can be made of the
frame, or the recorder refuses what was made of it. The induction is on the fuel and goes along with
the frames to come. -/

namespace HatReel.Rig

theorem next_getD {α : Type} (default : α) (outcomes : List α) :
    (next default outcomes).1 = outcomes.getD 0 default := by
  cases outcomes <;> rfl

theorem getD_next {α : Type} (default : α) (outcomes : List α) (k : Nat) :
    (next default outcomes).2.getD k default = outcomes.getD (k + 1) default := by
  cases outcomes <;> rfl

theorem bind_unread {σ α β : Type} {x : Act σ α} {f : α → Act σ β} {s next last : σ} {a : α}
    {b : Except Fault β} {t before : List Event} (ran : (x >>= f) s = ⟨b, last, t⟩)
    (step : x s = ⟨.ok a, next, before⟩) (unread : goodReads before = 0) :
    ∃ u, f a next = ⟨b, last, u⟩ ∧ goodReads t = goodReads u := by
  obtain ⟨u, after, rfl⟩ := Act.bind_rest ran step
  refine ⟨u, after, ?_⟩
  rw [goodReads_append, unread, Nat.zero_add]

/-- What comes of a sequence of steps that each give the same answer in both states. -/
theorem answer_bind {σ α β : Type} {x : Act σ α} {f : α → Act σ β} {s s' : σ}
    (first : (x s).answer = (x s').answer)
    (rest : ∀ a t t', (f a t).answer = (f a t').answer) :
    ((x >>= f) s).answer = ((x >>= f) s').answer := by
  rcases left : x s with ⟨answer, next, before⟩
  rcases right : x s' with ⟨answer', next', before'⟩
  rw [left, right] at first
  cases first
  cases answer with
  | error fault => rw [Act.bind_of_error f left, Act.bind_of_error f right]
  | ok a =>
      rw [Act.bind_of_ok f left, Act.bind_of_ok f right]
      exact rest a next next'

theorem Logs.unread {w w' : World} {t : List Event} (logs : Logs w t w') : goodReads t = 0 :=
  goodReads_within logs.within (by decide)

end HatReel.Rig

namespace HatReel.Reel

open HatReel.Camera HatReel.Contour HatReel.Image HatReel.Log HatReel.Model HatReel.Rig

/-- What processing a frame gives in which the given faces are found, or the search for them
fails. -/
def develop (config : Config) (rotation : Matrix Float) (found : Option (List Draw.Rect))
    (frame : Frame) : Except Fault Processed :=
  (process config rotation frame { scripts := { faces := [found] } }).answer

/-- Of the world the processing of a frame depends on the outcome of the next search only. -/
theorem process_answer (config : Config) (rotation : Matrix Float) (frame : Frame) (w : World) :
    (process config rotation frame w).answer =
      develop config rotation (nextFound w) frame := by
  have required {α : Type} (x : Option α) (v v' : World) :
      (Act.require x .picture v).answer = (Act.require x .picture v').answer := by
    cases x <;> rfl
  unfold develop process
  cases frame.gray? with
  | none => rfl
  | some gray =>
      rw [Act.require_some_bind]
      have found : (detect config.classifier gray w).answer = (detect config.classifier gray
          { scripts := { faces := [nextFound w] } }).answer := by
        rw [detect_run, detect_run]
        rfl
      have marked : (annotate config.classifier frame gray w).answer =
          (annotate config.classifier frame gray
            { scripts := { faces := [nextFound w] } }).answer := by
        apply answer_bind found
        intro faces v v'
        rcases Draw.drawFaces frame faces with ⟨marked, _ | fault⟩ <;> rfl
      refine answer_bind marked ?_
      rintro ⟨faces, marked⟩ v v'
      refine answer_bind (required _ v v') ?_
      rintro ⟨polygons, drawn⟩ v v'
      exact answer_bind (required _ v v') fun warped v v' => rfl

/-- How a run fails that comes upon a frame of another size: as the processing of the frame does,
and if this does not fail then by the recorder. -/
def FailsFor (config : Config) (rotation : Matrix Float) (width height : Int)
    (found : Option (List Draw.Rect)) (frame : Frame) (fault : Fault) : Prop :=
  match develop config rotation found frame with
  | .error own => fault = own
  | .ok _ => fault = .frameSize frame.width frame.height width height

section

variable {config : Config} {rotation : Matrix Float} {frame : Frame} {stats : Stats} {s : Stage}
  {p : Preview} {r : Recorder} {width height : Int}

theorem unread_handle (config : Config) (rotation : Matrix Float) (frame : Frame) (stats : Stats) :
    Act.Obeys (fun _ t _ => Within [.detector, .window, .writer, .journal] t)
      (handle config rotation frame stats) := by
  have joins := within_joins (σ := Stage) [.detector, .window, .writer, .journal]
  apply Act.obeys_bind joins (within_onWorld (by decide) (within_process config rotation frame))
  intro done
  apply Act.obeys_bind joins (within_onPreview (by decide) () (within_present done.warped))
  intro _
  apply Act.obeys_bind joins (within_onRecorder (by decide) () (within_record done.warped))
  intro _
  exact Act.obeys_pure joins _

theorem isSome_of_writing (writing : s.isWriting = true) : s.recorder.isSome = true := by
  unfold Stage.isWriting at writing
  cases equipped : s.recorder with
  | none =>
      rw [equipped] at writing
      cases writing
  | some r => rfl

theorem handle_resized (held : s.preview = some p) (sized : s.IsFor width height)
    (writing : s.isWriting = true)
    (other : ¬((frame.width : Int) = width ∧ (frame.height : Int) = height)) :
    ∃ fault, (handle config rotation frame stats s).answer = .error fault ∧
      FailsFor config rotation width height (nextFound s.world) frame fault := by
  obtain ⟨r, equipped⟩ := Option.isSome_iff_exists.mp (isSome_of_writing writing)
  have writes : r.writer.isSome = true := by simpa [Stage.isWriting, equipped] using writing
  obtain ⟨rfl, rfl⟩ := sized r equipped
  have answer := process_answer config rotation frame s.world
  unfold FailsFor
  rcases processed : process config rotation frame s.world with ⟨fault | done, w, t⟩ <;>
    rw [processed] at answer <;> rw [← answer]
  · have ended : handle config rotation frame stats s = _ :=
      Act.bind_of_error _ (Stage.onWorld_run processed)
    exact ⟨fault, by rw [ended], rfl⟩
  · obtain ⟨gray, _, -, shown, rfl, rfl⟩ := process_ok processed
    have size := shoot?_size shown
    have wide : done.warped.width = frame.width := size.width
    have high : done.warped.height = frame.height := size.height
    obtain ⟨w, u, presented, -⟩ := Preview.present_run p done.warped (facesTaken s.world)
    have refused := Recorder.record_resized writes (by rwa [wide, high]) w
    rw [wide, high] at refused
    let last : Stage := { s with
      preview := some (p.afterFrame s.world.scripts.keys), recorder := some r, world := w }
    have ended : handle config rotation frame stats s =
        ⟨.error (.frameSize frame.width frame.height r.width r.height), last,
          [search config.classifier gray] ++ (u ++ [])⟩ := by
      refine Act.bind_run (Stage.onWorld_run processed) ?_ rfl
      refine Act.bind_run (Stage.onPreview_run () held presented) ?_ rfl
      exact Act.bind_of_error _ (Stage.onRecorder_run () equipped refused)
    exact ⟨_, by rw [ended], rfl⟩

/-- After a frame has been handled the recorder still writes, and is for frames of the same size. -/
theorem handle_equipped {stats' : Stats} {s' : Stage} {t : List Event}
    (ran : handle config rotation frame stats s = ⟨.ok stats', s', t⟩)
    (sized : s.IsFor width height) (writing : s.isWriting = true) :
    s'.IsFor width height ∧ s'.isWriting = true := by
  have built := built_handle config rotation frame stats
  have fits := (kept_fits width height config).obeys built s
  have rolls := (kept_rolls config).obeys built s
  rw [ran] at fits rolls
  exact ⟨(fits sized).1, rolls.writing.trans writing⟩

/-- The first frame of another size that is read is the last one. -/
theorem loop_resized (fuel : Nat) {answer : Except Fault Stats} {s' : Stage} {t : List Event}
    {reads : List (Option Frame)} {k : Nat} {odd : Frame}
    (ran : loop config rotation fuel stats s = ⟨answer, s', t⟩)
    (capturing : s.grabber.capture = some ⟨reads⟩) (held : s.preview = some p)
    (sized : s.IsFor width height) (writing : s.isWriting = true)
    (comes : (delivered reads)[k]? = some odd) (read : k < goodReads t)
    (other : ¬((odd.width : Int) = width ∧ (odd.height : Int) = height)) :
    goodReads t = k + 1 ∧ ∃ fault, answer = .error fault ∧
      FailsFor config rotation width height (s.world.scripts.faces.getD k (some [])) odd fault := by
  induction fuel generalizing stats s p reads k t with
  | zero =>
      cases ran
      cases read
  | succ fuel ih =>
      have round := loop_round config rotation fuel stats capturing held
      rw [ran] at round
      cases round with
      | closed _ _ _ idle =>
          rw [idle.unread] at read
          cases read
      | spent _ _ _ idle =>
          rw [idle.unread] at read
          cases read
      | read _ _ asked u frame left w _ come _ scripts idle after =>
          have faces : w.scripts.faces = s.world.scripts.faces := by rw [scripts]
          have refuses : ¬((frame.width : Int) = width ∧ (frame.height : Int) = height) →
              ∃ fault,
                (handle config rotation frame stats (s.reading p left w)).answer =
                  .error fault ∧
                FailsFor config rotation width height (nextFound w) frame fault :=
            handle_resized rfl sized writing
          have unread := unread_handle config rotation frame stats (s.reading p left w)
          have count : goodReads (asked ++ (.captureRead true :: u)) = goodReads u + 1 := by
            rw [goodReads_append, idle.unread, Nat.zero_add]
            exact (goodReads_append [.captureRead true] u).trans (Nat.add_comm 1 _)
          rw [come] at comes
          rw [count] at read ⊢
          rcases handled : handle config rotation frame stats (s.reading p left w) with
            ⟨fault | stats₁, s₁, v⟩ <;> rw [handled] at refuses unread
          · -- the round fails, so that its frame is the odd one
            rw [rest_failed handled] at after
            cases after
            rw [goodReads_within unread (by decide)] at read ⊢
            obtain rfl : k = 0 := by omega
            cases comes
            obtain ⟨_, same, fails⟩ := refuses other
            cases same
            rw [nextFound, next_getD, faces] at fails
            exact ⟨rfl, fault, rfl, fails⟩
          · -- the frame is handled, so that it is not the odd one
            cases k with
            | zero =>
                cases comes
                obtain ⟨_, never, -⟩ := refuses other
                cases never
            | succ k =>
                obtain ⟨_, _, -, -, -, grabber, held₁, -, scripts₁⟩ :=
                  handle_ok handled rfl (isSome_of_writing writing)
                obtain ⟨sized₁, writing₁⟩ := handle_equipped handled sized writing
                rcases rest_handled fuel handled with ⟨_, _, logged, -, -, logs, ended⟩ | ⟨-, goes⟩
                · rw [ended] at after
                  cases after
                  rw [goodReads_append, goodReads_within unread (by decide), logs.unread] at read
                  omega
                · rcases looped : loop config rotation fuel stats₁ s₁ with ⟨result, last, v'⟩
                  simp only [goes, looped, Ran.after] at after
                  cases after
                  rw [goodReads_append, goodReads_within unread (by decide), Nat.zero_add] at read ⊢
                  obtain ⟨final, fault, failed, fails⟩ :=
                    ih looped (by rw [grabber]; rfl) held₁ sized₁ writing₁ comes (by omega)
                  refine ⟨by omega, fault, failed, ?_⟩
                  rw [scripts₁] at fails
                  change FailsFor _ _ _ _
                    ((next (some []) w.scripts.faces).2.getD k (some [])) _ _ at fails
                  rwa [getD_next, faces] at fails

end

section

variable {demo : Demo} {first odd : Frame} {s s' : Stage} {answer : Except Fault Stats}
  {t : List Event} {left : List (Option Frame)} {k : Nat}

def FailsAfter (demo : Demo) (first : Frame) (w : World) (k : Nat) (odd : Frame) (fault : Fault) :
    Prop :=
  ∃ rotation, (drawRotation demo.config (frameSize first) w).answer = .ok rotation ∧
    FailsFor demo.config rotation first.width first.height (w.scripts.faces.getD k (some [])) odd
      fault

theorem filming_resized {p : Preview} (ran : filming demo first s = ⟨answer, s', t⟩)
    (capturing : s.grabber.capture = some ⟨left⟩) (held : s.preview = some p)
    (sized : s.IsFor first.width first.height) (writing : s.isWriting = true)
    (comes : (delivered left)[k]? = some odd) (read : k < goodReads t)
    (other : ¬(odd.width = first.width ∧ odd.height = first.height)) :
    goodReads t = k + 1 ∧ ∃ fault, answer = .error fault ∧
      FailsAfter demo first s.world k odd fault := by
  obtain ⟨same, silent⟩ := drawRotation_same demo.config (frameSize first) s.world
  rcases drawn : drawRotation demo.config (frameSize first) s.world with
    ⟨fault | rotation, w, u⟩ <;>
    rw [drawn] at same silent <;> cases same <;> cases silent
  · rw [filming, Act.bind_of_error _ (Stage.onWorld_run drawn)] at ran
    cases ran
    cases read
  obtain ⟨_, after, count⟩ := bind_unread ran (Stage.onWorld_run drawn) rfl
  obtain ⟨_, after₁, count₁⟩ := bind_unread after (Act.modify_run _ _) rfl
  obtain ⟨w₁, logged, step, logs⟩ :=
    log_run .info loggerName s!"Random rotation:\n{rotation.text}" s.world
  obtain ⟨_, after₂, count₂⟩ := bind_unread after₁ (Stage.onWorld_run step) logs.unread
  obtain ⟨time, w₂, ticked, clock, scripts⟩ := readClock_run w₁
  obtain ⟨_, after₃, count₃⟩ := bind_unread after₂ (Stage.onWorld_run ticked) rfl
  rw [Act.get_bind] at after₃
  have faces : w₂.scripts.faces = s.world.scripts.faces := by rw [scripts, logs.scripts]
  rw [count, count₁, count₂, count₃] at read ⊢
  have other' : ¬((odd.width : Int) = first.width ∧ (odd.height : Int) = first.height) := by
    rintro ⟨wide, high⟩
    exact other ⟨Int.ofNat.inj wide, Int.ofNat.inj high⟩
  let ready : Stage := { s with rotation := some rotation, world := w₂ }
  rcases looped : loop demo.config rotation (readsLeft ready.grabber + 1)
    { output := Files.Path.ofText demo.config.recorder.path } ready with ⟨fault | stats, s₁, v⟩
  · rw [Act.bind_of_error _ looped] at after₃
    cases after₃
    obtain ⟨last, fault, failed, fails⟩ :=
      loop_resized _ looped capturing held sized writing comes read other'
    refine ⟨last, fault, failed, rotation, by rw [drawn], ?_⟩
    rwa [faces] at fails
  · obtain ⟨u, after₄, rfl⟩ := Act.bind_rest after₃ looped
    obtain ⟨now, w₃, ticked', -⟩ := readClock_run s₁.world
    obtain ⟨_, after₅, last⟩ := bind_unread after₄ (Stage.onWorld_run ticked') rfl
    cases after₅
    rw [goodReads_append, last, goodReads_nil, Nat.add_zero] at read
    obtain ⟨-, _, never, -⟩ :=
      loop_resized _ looped capturing held sized writing comes read other'
    cases never

/-- A run that comes upon a frame of another size than the first one has failed with it. -/
theorem recording_resized (ran : recording demo first s = ⟨answer, s', t⟩)
    (capturing : s.grabber.capture = some ⟨left⟩)
    (comes : (delivered left)[k]? = some odd) (read : k < goodReads t)
    (other : ¬(odd.width = first.width ∧ odd.height = first.height)) :
    goodReads t = k + 1 ∧ ∃ fault, answer = .error fault ∧
      FailsAfter demo first s.world k odd fault := by
  obtain ⟨w₁, logged, step, logs⟩ :=
    log_run .info loggerName s!"Frame size: {first.width}x{first.height}" s.world
  obtain ⟨_, after, count⟩ := bind_unread ran (Stage.onWorld_run step) logs.unread
  obtain ⟨_, after₁, count₁⟩ := bind_unread after (Act.modify_run _ _) rfl
  rw [count, count₁] at read ⊢
  have started := Recorder.start_started (demo.recorder first) w₁
  rcases start : Recorder.start (demo.recorder first, w₁) with ⟨result, ⟨r, w₂⟩, v⟩
  rw [start] at started
  have starts := Stage.onRecorder_run
    (s := { s with recorder := some (demo.recorder first), world := w₁ }) () rfl start
  cases started with
  | unopened fault w₂ scripts =>
      rw [Act.bind_of_error _ starts] at after₁
      cases after₁
      cases read
  | refused code w₂ scripts =>
      rw [Act.bind_of_error _ starts] at after₁
      cases after₁
      cases read
  | opened code writer w₂ opened scripts within =>
      have unread : goodReads ((demo.recorder first).opening code :: opened) = 0 := by
        change goodReads ([(demo.recorder first).opening code] ++ opened) = 0
        rw [goodReads_append, goodReads_within within (by decide)]
        rfl
      obtain ⟨_, after₂, count₂⟩ := bind_unread after₁ starts unread
      rw [count₂] at read ⊢
      cases made : makePreview demo with
      | error fault =>
          rw [made] at after₂
          cases after₂
          cases read
      | ok p =>
          rw [made, Act.ofExcept_ok_bind] at after₂
          obtain ⟨_, after₃, count₃⟩ := bind_unread after₂ (Act.modify_run _ _) rfl
          rw [count₃] at read ⊢
          have sized : Stage.IsFor { s with
              recorder := some { demo.recorder first with writer := some writer }
              preview := some p
              world := w₂ } first.width first.height := by
            rintro _ ⟨⟩
            exact ⟨rfl, rfl⟩
          obtain ⟨last, fault, failed, rotation, drawn, fails⟩ :=
            filming_resized after₃ capturing rfl sized rfl comes read other
          have same : w₂.scripts = { s.world.scripts with
              writers := (next ⟨true, none⟩ s.world.scripts.writers).2 } := by
            rw [scripts]
            simp only [Recorder.writerTaken, logs.scripts]
          refine ⟨last, fault, failed, rotation, ?_, ?_⟩
          · rw [← drawn]
            exact drawRotation_entropy _ _ (by rw [same])
          · change FailsFor _ _ _ _ (w₂.scripts.faces.getD k (some [])) _ _ at fails
            rwa [same] at fails

end

end HatReel.Reel
