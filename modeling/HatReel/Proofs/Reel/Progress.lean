import HatReel.Proofs.Contour.Simplify
import HatReel.Proofs.Draw.Size
import HatReel.Proofs.Reel.Loop

/-! When frames can be handled.

A coloured frame with faces inside can be processed exactly if it can be warped and all of its
contours can be simplified. A loop over such frames returns: nothing else in it can fail once the
recorder is ready. The induction is on the fuel and goes along with that for a loop that ends
well. -/

namespace HatReel.Contour

open HatReel.Draw HatReel.Image

def contoursOf (style : Style) (frame : Frame) : List (List Point) :=
  (frame.gray?.bind fun gray => contours? (gray.binarize style.threshold style.maximum)).getD []

theorem isSome_mapM {α β : Type} (f : α → Option β) (as : List α) :
    (as.mapM f).isSome = as.all fun a => (f a).isSome := by
  induction as with
  | nil => rfl
  | cons a rest ih =>
      rw [List.mapM_cons, List.all_cons, ← ih]
      cases f a with
      | none => rfl
      | some b =>
          cases rest.mapM f with
          | none => rfl
          | some bs => rfl

theorem drawContours?_isSome (style : Style) {frame gray : Frame} (isGray : frame.gray? = some gray)
    (marked : Frame) :
    (drawContours? marked gray style).isSome =
      (contoursOf style frame).all fun c => isTolerance (perimeter c * style.ratio) := by
  have single : gray.channels = 1 := by
    unfold Frame.gray? at isGray
    split at isGray
    · cases isGray
      rfl
    · cases isGray
  have found : contours? (gray.binarize style.threshold style.maximum) =
      some (contoursOf style frame) := by
    have binary : (gray.binarize style.threshold style.maximum).channels = 1 := single
    simp only [contoursOf, isGray, Option.bind_some, contours?, binary]
    rfl
  rw [drawContours?, Option.isSome_map, polygons?, found, Option.bind_some, isSome_mapM]
  simp only [approximate?_isSome]

end HatReel.Contour

namespace HatReel

theorem Config.limit_pos {c : Config} {done : Nat}
    (more : ∀ most ∈ c.run.maxFrames, (done : Int) < most) (n : Nat) :
    0 < c.limit done (n + 1) := by
  unfold Config.limit
  cases isMost : c.run.maxFrames with
  | none => exact Nat.succ_pos n
  | some most =>
      have above := more most isMost
      simp only
      omega

end HatReel

namespace HatReel.Reel

open HatReel.Camera HatReel.Contour HatReel.Draw HatReel.Image HatReel.Log HatReel.Model
  HatReel.Rig

structure Suits (style : Style) (frame : Frame) : Prop where
  narrow : frame.width ≤ warpLimit
  low : frame.height ≤ warpLimit
  tolerances : ∀ c ∈ contoursOf style frame, isTolerance (perimeter c * style.ratio) = true

structure IsColoured (width height : Nat) (frame : Frame) : Prop where
  width : frame.width = width
  height : frame.height = height
  channels : frame.channels = 3
  filled : frame.isEmpty = false

theorem gray?_coloured {width height : Nat} {frame : Frame}
    (coloured : IsColoured width height frame) :
    ∃ gray, frame.gray? = some gray := by
  unfold Frame.gray?
  rw [coloured.channels, coloured.filled]
  exact ⟨_, rfl⟩

theorem warp?_isSome {frame : Frame} (filled : frame.isEmpty = false) (m : Matrix Float) :
    (frame.warp? m).isSome = true ↔ frame.width ≤ warpLimit ∧ frame.height ≤ warpLimit := by
  unfold Frame.warp?
  rw [filled, Bool.false_or]
  by_cases large : warpLimit < frame.width ∨ warpLimit < frame.height
  · rw [if_pos (by simpa using large)]
    simp only [Option.isSome_none, Bool.false_eq_true, false_iff]
    omega
  · rw [if_neg (by simpa using large)]
    simp only [Option.isSome_some, true_iff]
    omega

section

variable {config : Config} {rotation : Matrix Float} {frame : Frame} {faces : List Rect}

theorem shoot?_size {shot : Shot} (shown : shoot? config rotation frame faces = some shot) :
    frame.SameSize shot.picture := by
  unfold shoot? at shown
  have marks := sameSize_drawFaces frame faces
  split at shown
  · next gray marked isGray drawn =>
    rw [drawn] at marks
    obtain ⟨⟨polygons, annotated⟩, drawing, warps⟩ := Option.bind_eq_some_iff.mp shown
    obtain ⟨picture, warped, isShot⟩ := Option.map_eq_some_iff.mp warps
    unfold Frame.warp? at warped
    split at warped
    · cases warped
    · cases warped
      cases isShot
      exact marks.trans ((sameSize_drawContours drawing).trans (Frame.sameSize_warp _ rotation))
  · cases shown

/-- A coloured frame on which the faces have been drawn becomes a shot exactly if it suits. -/
theorem shoot?_drawn {gray marked : Frame} (filled : frame.isEmpty = false)
    (isGray : frame.gray? = some gray) (drawn : drawFaces frame faces = (marked, none)) :
    (shoot? config rotation frame faces).isSome = true ↔ Suits config.contours.style frame := by
  have contours := drawContours?_isSome config.contours.style isGray marked
  have marks := sameSize_drawFaces frame faces
  rw [drawn] at marks
  simp only [shoot?, isGray, drawn]
  cases drawing : drawContours? marked gray config.contours.style with
  | none =>
      rw [drawing, Option.isSome_none] at contours
      rw [Option.bind_none, Option.isSome_none]
      refine ⟨fun never => (Bool.false_ne_true never).elim, fun suits => ?_⟩
      rw [List.all_eq_true.mpr suits.tolerances] at contours
      exact contours
  | some found =>
      obtain ⟨polygons, annotated⟩ := found
      rw [drawing, Option.isSome_some] at contours
      have same : frame.SameSize annotated := marks.trans (sameSize_drawContours drawing)
      have annotatedFilled : annotated.isEmpty = false := same.isEmpty.trans filled
      rw [Option.bind_some, Option.isSome_map, warp?_isSome annotatedFilled,
        same.width, same.height]
      refine ⟨fun bounded => ⟨bounded.1, bounded.2, ?_⟩, fun suits => ⟨suits.narrow, suits.low⟩⟩
      exact List.all_eq_true.mp contours.symm

theorem shoot?_isSome {width height : Nat} (coloured : IsColoured width height frame)
    (inside : ∀ r ∈ faces, r.IsInside width height) :
    (shoot? config rotation frame faces).isSome = true ↔ Suits config.contours.style frame := by
  obtain ⟨gray, isGray⟩ := gray?_coloured coloured
  rcases drawn : drawFaces frame faces with ⟨marked, _ | fault⟩
  · exact shoot?_drawn coloured.filled isGray drawn
  · -- a fault of a face means that the frame is too large
    refine ⟨fun shown => ?_, fun suits => ?_⟩
    · simp [shoot?, isGray, drawn] at shown
    · obtain ⟨rfl, rfl, -, -⟩ := coloured
      have faultless := drawFaces_inside inside suits.narrow suits.low frame
      rw [drawn] at faultless
      cases faultless

end

theorem process_run {config : Config} {rotation : Matrix Float} {frame : Frame} {w : World}
    {faces : List Rect} {shot : Shot} (come : nextFound w = some faces)
    (shown : shoot? config rotation frame faces = some shot) :
    ∃ done t, process config rotation frame w = ⟨.ok done, facesTaken w, t⟩ ∧
      done.warped = shot.picture := by
  unfold shoot? at shown
  split at shown
  · next gray marked isGray drawn =>
    obtain ⟨⟨polygons, annotated⟩, drawing, warps⟩ := Option.bind_eq_some_iff.mp shown
    obtain ⟨picture, warped, isShot⟩ := Option.map_eq_some_iff.mp warps
    have annotates : annotate config.classifier frame gray w =
        ⟨.ok (faces, marked), facesTaken w, [search config.classifier gray]⟩ := by
      have detects := detect_run config.classifier gray w
      rw [come] at detects
      refine Act.bind_run detects ?_ (List.append_nil _).symm
      simp only [drawn]
      rfl
    refine ⟨⟨annotated, picture, faces.length, polygons.length⟩,
      [search config.classifier gray], ?_, ?_⟩
    · unfold process
      rw [isGray]
      refine Act.bind_run (Act.pure_run _ _) ?_ rfl
      refine Act.bind_run annotates ?_ (List.append_nil _).symm
      simp only [drawing]
      refine Act.bind_run (Act.pure_run _ _) ?_ rfl
      simp only [warped]
      rfl
    · cases isShot
      rfl
  · cases shown

structure Ready (width height : Nat) (r : Recorder) : Prop where
  width : r.width = width
  height : r.height = height
  writing : ∃ writer, r.writer = some writer ∧ ∀ n : Nat, writer.failAt ≠ some (n : Int)

theorem record_ready {width height : Nat} {r : Recorder} (ready : Ready width height r)
    {frame : Frame} (wide : frame.width = width) (high : frame.height = height) (w : World) :
    ∃ r' t, Recorder.record frame (r, w) = ⟨.ok (), (r', w), t⟩ ∧ Ready width height r' := by
  obtain ⟨sameWidth, sameHeight, writer, held, fails⟩ := ready
  refine ⟨{ r with
    written := r.written + 1, writer := some { writer with count := writer.count + 1 } },
    [.writerWrite frame], ?_, sameWidth, sameHeight, _, rfl, fails⟩
  have fits : ((frame.width : Int) != r.width || (frame.height : Int) != r.height) = false := by
    simp [sameWidth, sameHeight, wide, high]
  have works : (writer.failAt == some (writer.count : Int)) = false :=
    beq_eq_false_iff_ne.mpr (fails writer.count)
  unfold Recorder.record
  rw [Act.get_bind]
  simp only [held, fits, works, Bool.false_eq_true, if_false]
  rfl

theorem handle_shot {config : Config} {rotation : Matrix Float} {frame : Frame} {stats : Stats}
    {s : Stage} {p : Preview} {r : Recorder} {faces : List Rect} {shot : Shot}
    (come : nextFound s.world = some faces)
    (shown : shoot? config rotation frame faces = some shot)
    (held : s.preview = some p) (equipped : s.recorder = some r)
    (ready : Ready frame.width frame.height r) :
    ∃ stats' s' t r', handle config rotation frame stats s = ⟨.ok stats', s', t⟩ ∧
      s'.recorder = some r' ∧ Ready frame.width frame.height r' := by
  obtain ⟨done, t, processed, warped⟩ := process_run come shown
  have size := shoot?_size shown
  obtain ⟨w, u, presented, _⟩ := Preview.present_run p done.warped (facesTaken s.world)
  have wide : done.warped.width = frame.width := by rw [warped, size.width]
  have high : done.warped.height = frame.height := by rw [warped, size.height]
  obtain ⟨r', v, recorded, ready'⟩ := record_ready ready wide high w
  let counted : Stats := { stats with
    frames := stats.frames + 1
    faces := stats.faces + done.faces
    contours := stats.contours + done.contours }
  let after : Stage := { s with
    preview := some (p.afterFrame s.world.scripts.keys), recorder := some r', world := w }
  refine ⟨counted, after, t ++ (u ++ (v ++ [])), r', ?_, rfl, ready'⟩
  unfold handle
  refine Act.bind_run (Stage.onWorld_run processed) ?_ rfl
  refine Act.bind_run (Stage.onPreview_run () held presented) ?_ rfl
  exact Act.bind_run (Stage.onRecorder_run () equipped recorded) (Act.pure_run _ _) rfl

theorem next_all {α : Type} {P : α → Prop} {default : α} {as : List α} (first : P default)
    (all : ∀ a ∈ as, P a) : P (next default as).1 ∧ ∀ a ∈ (next default as).2, P a := by
  cases as with
  | nil => exact ⟨first, all⟩
  | cons a rest =>
      exact ⟨all a List.mem_cons_self, fun b member => all b (List.mem_cons_of_mem a member)⟩

def FindsInside (width height : Nat) (found : List (Option (List Rect))) : Prop :=
  ∀ outcome ∈ found, ∃ faces, outcome = some faces ∧ ∀ f ∈ faces, f.IsInside width height

/-- A loop returns if the frames suit that it may handle while the preview is open. -/
theorem loop_returns {config : Config} {rotation : Matrix Float} (fuel : Nat) {stats : Stats}
    {s : Stage} {p : Preview} {r : Recorder} {reads : List (Option Frame)} {width height : Nat}
    (capturing : s.grabber.capture = some ⟨reads⟩) (held : s.preview = some p)
    (equipped : s.recorder = some r) (ready : Ready width height r)
    (enoughFuel : reads.length < fuel)
    (more : ∀ n ∈ config.run.maxFrames, (stats.frames : Int) < n)
    (coloured : ∀ frame ∈ delivered reads, IsColoured width height frame)
    (inside : FindsInside width height s.world.scripts.faces)
    (suits : ∀ frame ∈ (delivered reads).take (config.limit stats.frames (p.openChecks
      s.world.scripts.keys s.world.scripts.visible (delivered reads).length)),
        Suits config.contours.style frame) :
    Act.Returns (loop config rotation fuel stats) s := by
  induction fuel generalizing stats s p r reads with
  | zero => cases enoughFuel
  | succ fuel ih =>
      have round := loop_round config rotation fuel stats capturing held
      rcases ran : loop config rotation (fuel + 1) stats s with ⟨answer, s', t⟩
      rw [ran] at round
      cases round with
      | closed => exact ⟨_, _, _, ran⟩
      | spent => exact ⟨_, _, _, ran⟩
      | read _ _ asked u frame left w isOpen come fewer scripts idle after =>
          rw [come] at coloured suits
          rw [List.length_cons, Preview.openChecks_succ isOpen] at suits
          have colour := coloured frame List.mem_cons_self
          have firstSuits : Suits config.contours.style frame := by
            obtain ⟨n, isLimit⟩ := Nat.exists_eq_add_one.mpr (Config.limit_pos more _)
            rw [isLimit] at suits
            exact suits frame List.mem_cons_self
          rw [← show w.scripts.faces = s.world.scripts.faces by rw [scripts]] at inside
          obtain ⟨⟨faces, found, facesInside⟩, laterInside⟩ :=
            next_all ⟨[], rfl, List.forall_mem_nil _⟩ inside
          obtain ⟨shot, shown⟩ :=
            Option.isSome_iff_exists.mp ((shoot?_isSome colour facesInside).mpr firstSuits)
          obtain ⟨stats₁, s₁, v, r₁, handled, equipped₁, ready₁⟩ :=
            handle_shot (s := s.reading p left w) found shown rfl equipped
              (colour.width ▸ colour.height ▸ ready)
          rw [colour.width, colour.height] at ready₁
          rcases rest_handled fuel handled with ⟨_, _, _, -, -, -, ended⟩ | ⟨notEnough, goes⟩
          · rw [ended] at after
            cases after
            exact ⟨_, _, _, ran⟩
          · obtain ⟨_, _, -, -, counted, grabber₁, held₁, -, scripts₁⟩ :=
              handle_ok handled rfl (by rw [Stage.reading, equipped]; rfl)
            have grown : stats₁.frames = stats.frames + 1 := counted.frames
            have later := notEnough
            rw [grown] at later
            rw [Config.limit_succ later] at suits
            have returns : Act.Returns (loop config rotation fuel stats₁) s₁ := by
              refine ih (by rw [grabber₁]; rfl) held₁ equipped₁ ready₁ (by omega) notEnough
                (fun f member => coloured f (List.mem_cons_of_mem _ member)) ?_ ?_
              · rw [scripts₁]
                exact laterInside
              · rw [scripts₁, grown]
                refine fun f member => suits f (List.mem_cons_of_mem _ ?_)
                change f ∈ _ at member
                simp only [Stage.reading, scripts] at member
                exact member
            obtain ⟨_, _, _, looped⟩ := returns
            rw [goes, looped] at after
            cases after
            exact ⟨_, _, _, ran⟩

end HatReel.Reel
