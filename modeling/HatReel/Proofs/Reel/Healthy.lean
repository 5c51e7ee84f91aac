import HatReel.Proofs.Files.Kinds
import HatReel.Proofs.Reel.Progress
import HatReel.Proofs.Reel.Run
import HatReel.Proofs.Reel.Unseen

/-! When a run returns in a world in which no device fails.

What the settings can then still spoil is a name of a source that no number belongs to, a seed below
zero, a quotient of two gammas that is zero, and contours that cannot be simplified as coarsely as
asked for. A run returns exactly if none of these occurs and no frame is too large to be warped. -/

namespace HatReel.Camera

open HatReel.Files HatReel.Log HatReel.Rig

theorem Recorder.codeNumber?_four {code : String} (four : code.length = 4) :
    ∃ n, Recorder.codeNumber? code = some n := by
  have length : code.toList.length = 4 := by rw [String.length_toList, four]
  obtain ⟨a, b, c, d, parts⟩ := List.length_eq_four.mp length
  unfold Recorder.codeNumber?
  rw [parts]
  exact ⟨_, rfl⟩

theorem Recorder.start_returns {r : Recorder} {w : World} (four : r.fourcc.length = 4)
    (directory : (w.files.ensureDirectory r.path.parent).2 = none)
    (opens : (next ⟨true, none⟩ w.scripts.writers).1.opens = true) :
    ∃ w' t, Recorder.start (r, w) = ⟨.ok (), ({ r with
        writer := some ⟨(next ⟨true, none⟩ w.scripts.writers).1.failAt, 0⟩ }, w'), t⟩ ∧
      w'.scripts = (writerTaken w).scripts := by
  obtain ⟨code, number⟩ := codeNumber?_four four
  rcases made : w.files.ensureDirectory r.path.parent with ⟨files, fault⟩
  rw [made] at directory
  cases directory
  have step : ensureDirectory r.path.parent w = ⟨.ok (), { w with files := files }, []⟩ := by
    unfold ensureDirectory
    rw [made]
  obtain ⟨w', t, started, logs⟩ := start_opened step number opens
  exact ⟨w', _, started, logs.scripts⟩

theorem Grabber.start_kinds :
    Act.Obeys (fun s _ s' => Store.SameKinds s.2.files s'.2.files) Grabber.start := by
  have joins : Act.Joins fun (s : Grabber × World) _ (s' : Grabber × World) =>
      Store.SameKinds s.2.files s'.2.files :=
    ⟨fun _ => Store.SameKinds.refl _, fun first second => first.trans second⟩
  have asks (property : CaptureProperty) (n : Option Int) :
      Act.Obeys (fun s _ s' => Store.SameKinds s.2.files s'.2.files)
        (Act.below (setProperty property n) : Act (Grabber × World) Unit) := by
    intro (g, w)
    obtain ⟨t, step, -⟩ := setProperty_run property n w
    rw [Act.below_run step g]
    exact Store.SameKinds.refl _
  have opened (g : Grabber) (script : CaptureScript) :
      Act.Obeys (fun s _ s' => Store.SameKinds s.2.files s'.2.files) (do
        Act.below (setProperty .width g.width)
        Act.below (setProperty .height g.height)
        hold (some ⟨script.reads⟩)
        Act.below (log .info loggerName s!"[Grabber] Opened source {g.source.quoted}")) := by
    refine Act.obeys_bind joins (asks _ _) fun _ => ?_
    refine Act.obeys_bind joins (asks _ _) fun _ => ?_
    refine Act.obeys_bind joins (fun _ => Store.SameKinds.refl _) fun _ => ?_
    exact Act.obeys_on (log_kinds _ _ _) fun _ _ _ kinds => kinds
  unfold Grabber.start
  refine Act.obeys_bind joins (Act.obeys_get joins) fun s => ?_
  refine Act.obeys_bind joins (fun _ => Store.SameKinds.refl _) fun script => ?_
  dsimp only
  split
  · refine Act.obeys_bind joins (fun _ => Store.SameKinds.refl _) fun _ => ?_
    exact Act.obeys_bind joins (Act.obeys_fail joins _) fun _ => opened s.1 script
  · exact opened s.1 script

end HatReel.Camera

namespace HatReel.Reel

open HatReel.Camera HatReel.Files HatReel.Image HatReel.Log HatReel.Model HatReel.Rig

/-- What a run is supplied with once its model is loaded and its source is open: coloured frames of
one size after the first one, a directory and a writer for the video, and a detector whose searches
all succeed, with the settings they get, and find faces inside the frames only. -/
structure Supplied (config : Config) (first : Frame) (frames : List Frame) (w : World) : Prop where
  coloured : ∀ frame ∈ frames, IsColoured first.width first.height frame
  directory : (w.files.ensureDirectory (Path.ofText config.recorder.path).parent).2 = none
  writer : (next ⟨true, none⟩ w.scripts.writers).1.opens = true
  lasting : ∀ n : Nat, (next ⟨true, none⟩ w.scripts.writers).1.failAt ≠ some (n : Int)
  inside : FindsInside first.width first.height w.scripts.faces

/-- Every device around a run does its part. What the settings ask of a device (a size, a frame
rate, the parameters of a search) is left to it: a healthy device does what it is asked. -/
structure Healthy (config : Config) (path : String) (first : Frame) (frames : List Frame)
    (w : World) : Prop extends Supplied config first frames w where
  model : w.files.isFile? (Path.ofText path) = .ok true
  cascade : w.scripts.cascade.loads = true ∧ w.scripts.cascade.empty = false ∧
    w.scripts.cascade.raises = none
  opens : (Grabber.nextCapture w).opens = true
  delivers : delivered (Grabber.nextCapture w).reads = first :: frames
  firstColoured : IsColoured first.width first.height first

theorem Supplied.keeps {config : Config} {first : Frame} {frames : List Frame} {w w' : World}
    (supplied : Supplied config first frames w) (kinds : Store.SameKinds w.files w'.files)
    (writers : w'.scripts.writers = w.scripts.writers)
    (faces : w'.scripts.faces = w.scripts.faces) :
    Supplied config first frames w' where
  coloured := supplied.coloured
  directory := (Store.ensureDirectory_kinds kinds _).trans supplied.directory
  writer := by rw [writers, supplied.writer]
  lasting := by
    rw [writers]
    exact supplied.lasting
  inside := by
    rw [faces]
    exact supplied.inside

theorem drawRotation_returns (config : Config) (size : Float) (w : World) :
    (∃ rotation, (drawRotation config size w).answer = .ok rotation) ↔
      ∀ n ∈ config.warp.seed, 0 ≤ n := by
  unfold drawRotation
  cases isSeed : config.warp.seed with
  | none => exact ⟨fun _ n never => (nomatch never), fun _ => ⟨_, rfl⟩⟩
  | some n =>
      by_cases negative : n < 0
      · simp only [negative, if_true]
        refine ⟨fun ⟨rotation, never⟩ => (nomatch never), fun seed => ?_⟩
        exact absurd (seed n rfl) (Int.not_le.mpr negative)
      · simp only [negative, if_false]
        refine ⟨fun _ m isSeed => ?_, fun _ => ⟨_, rfl⟩⟩
        cases isSeed
        exact Int.not_lt.mp negative

theorem loadModel_returns {demo : Demo} {path : String} {w : World} (given : demo.model = some path)
    (model : w.files.isFile? (Path.ofText path) = .ok true)
    (cascade : w.scripts.cascade.loads = true ∧ w.scripts.cascade.empty = false ∧
      w.scripts.cascade.raises = none) :
    ∃ w' t, loadModel demo w = ⟨.ok (), w', t⟩ ∧ w'.scripts = w.scripts ∧
      Store.SameKinds w.files w'.files := by
  obtain ⟨loads, filled, silent⟩ := cascade
  obtain ⟨w', t, logged, logs⟩ := log_run .info Model.loggerName
    s!"Loaded classifier {(Path.ofText path).text}" w
  have kinds := log_kinds .info Model.loggerName
    s!"Loaded classifier {(Path.ofText path).text}" w
  rw [logged] at kinds
  refine ⟨w', .cascadeLoad (Path.ofText path).text :: t, ?_, logs.scripts, kinds⟩
  unfold loadModel
  rw [given]
  refine Act.bind_run (Act.pure_run _ _) ?_ rfl
  unfold load
  have asked : askFiles (fun s => s.isFile? (Path.ofText path)) w = ⟨.ok true, w, []⟩ := by
    unfold askFiles
    simp only [model]
  refine Act.bind_run asked ?_ rfl
  dsimp only
  rw [if_neg (by simp)]
  refine Act.bind_run (Act.emit_run _ _) ?_ rfl
  rw [Act.get_bind]
  simp only [silent, loads, filled]
  exact logged

def AllSuit (config : Config) (p : Preview) (scripts : Scripts) (frames : List Frame) : Prop :=
  ∀ frame ∈ frames.take (config.limit 0 (p.openChecks scripts.keys scripts.visible frames.length)),
    Suits config.contours.style frame

theorem filming_returns {demo : Demo} {first : Frame} {s : Stage} {p : Preview} {r : Recorder}
    {reads : List (Option Frame)} (seed : ∀ n ∈ demo.config.warp.seed, 0 ≤ n)
    (positive : ∀ n ∈ demo.config.run.maxFrames, 1 ≤ n)
    (capturing : s.grabber.capture = some ⟨reads⟩) (held : s.preview = some p)
    (equipped : s.recorder = some r) (ready : Ready first.width first.height r)
    (coloured : ∀ frame ∈ delivered reads, IsColoured first.width first.height frame)
    (inside : FindsInside first.width first.height s.world.scripts.faces)
    (suits : AllSuit demo.config p s.world.scripts (delivered reads)) :
    Act.Returns (filming demo first) s := by
  obtain ⟨rotation, drawn⟩ :=
    (drawRotation_returns demo.config (frameSize first) s.world).mpr seed
  have unchanged := drawRotation_same demo.config (frameSize first) s.world
  rcases turned : drawRotation demo.config (frameSize first) s.world with ⟨answer, w, t⟩
  rw [turned] at drawn unchanged
  obtain ⟨rfl, -⟩ := unchanged
  cases drawn
  unfold filming
  refine Act.returns_bind (Stage.onWorld_run turned) ?_
  refine Act.returns_bind (Act.modify_run _ _) ?_
  obtain ⟨w₁, _, told, logs⟩ :=
    log_run .info loggerName s!"Random rotation:\n{rotation.text}" s.world
  refine Act.returns_bind (Stage.onWorld_run told) ?_
  obtain ⟨start, w₂, clocked, clock, scripts⟩ := readClock_run w₁
  rw [logs.scripts] at scripts
  refine Act.returns_bind (Stage.onWorld_run clocked) ?_
  refine Act.returns_bind (Act.get_run _) ?_
  have fuel : readsLeft s.grabber = reads.length := by
    unfold readsLeft
    rw [capturing]
  have looped : Act.Returns (loop demo.config rotation (readsLeft s.grabber + 1)
      { output := Path.ofText demo.config.recorder.path })
      { s with rotation := some rotation, world := w₂ } := by
    rw [fuel]
    refine loop_returns _ capturing held equipped ready (Nat.lt_succ_self _) positive coloured ?_ ?_
    · rw [scripts]
      exact inside
    · rw [scripts]
      exact suits
  obtain ⟨stats, last, _, ran⟩ := looped
  refine Act.returns_bind ran ?_
  obtain ⟨time, w₃, clocked₃, -⟩ := readClock_run last.world
  exact Act.returns_bind (Stage.onWorld_run clocked₃) (Act.returns_pure _ _)

/-- The body of a run returns that is supplied with all it needs. -/
theorem body_returns {demo : Demo} {first : Frame} {frames : List Frame} {s : Stage} {p : Preview}
    {reads : List (Option Frame)} (sound : demo.config.Sound)
    (capturing : s.grabber.capture = some ⟨reads⟩) (delivers : delivered reads = first :: frames)
    (supplied : Supplied demo.config first frames s.world)
    (seed : ∀ n ∈ demo.config.warp.seed, 0 ≤ n) (isPreview : makePreview demo = .ok p)
    (suits : AllSuit demo.config p s.world.scripts frames) : Act.Returns (body demo) s := by
  rw [body_eq]
  refine Act.returns_bind (Stage.onGrabber_run (Grabber.grab_held capturing)) ?_
  cases reads with
  | nil => cases delivers
  | cons read rest =>
  cases read with
  | none => cases delivers
  | some frame =>
      cases delivers
      change Act.Returns (recording demo first) _
      unfold recording
      obtain ⟨w₁, _, sized, logs⟩ := log_run .info loggerName
        s!"Frame size: {first.width}x{first.height}" s.world
      have kinds := log_kinds .info loggerName
        s!"Frame size: {first.width}x{first.height}" s.world
      rw [sized] at kinds
      have supplied₁ := supplied.keeps kinds (by rw [logs.scripts]) (by rw [logs.scripts])
      refine Act.returns_bind (Stage.onWorld_run sized) ?_
      refine Act.returns_bind (Act.modify_run _ _) ?_
      obtain ⟨w₂, _, started, scripts₂⟩ := Recorder.start_returns (r := demo.recorder first)
        sound.fourcc supplied₁.directory supplied₁.writer
      refine Act.returns_bind (Stage.onRecorder_run () rfl started) ?_
      have scripts : w₂.scripts = (Recorder.writerTaken s.world).scripts := by
        rw [scripts₂, Recorder.writerTaken, logs.scripts]
        rfl
      rw [isPreview]
      refine Act.returns_bind (Act.pure_run _ _) ?_
      refine Act.returns_bind (Act.modify_run _ _) ?_
      refine filming_returns seed sound.maxFrames rfl rfl rfl ⟨rfl, rfl, _, rfl, supplied₁.lasting⟩
        supplied.coloured ?_ ?_
      · rw [scripts]
        exact supplied.inside
      · rw [scripts]
        exact suits

/-- The attempt of a run returns in a healthy world if the settings spoil nothing. -/
theorem attempt_returns {demo : Demo} {path : String} {first : Frame} {frames : List Frame}
    {w : World} {p : Preview} (sound : demo.config.Sound) (given : demo.model = some path)
    (healthy : Healthy demo.config path first frames w)
    (seed : ∀ n ∈ demo.config.warp.seed, 0 ≤ n) (isPreview : makePreview demo = .ok p)
    (suits : AllSuit demo.config p w.scripts frames) :
    Act.Returns (attempt demo) (demo.stage w) := by
  obtain ⟨w₁, _, loaded, scripts₁, kinds₁⟩ :=
    loadModel_returns given healthy.model healthy.cascade
  have same : Grabber.nextCapture w₁ = Grabber.nextCapture w := by
    simp only [Grabber.nextCapture, scripts₁]
  obtain ⟨w₂, _, started, scripts₂, -⟩ :=
    Grabber.start_opened (g := demo.grabber) (by rw [same, healthy.opens] : _ = true)
  have kinds₂ := Grabber.start_kinds (demo.grabber, w₁)
  rw [started] at kinds₂
  have scripts : w₂.scripts = (Grabber.captureTaken w).scripts := by
    rw [scripts₂, Grabber.captureTaken, scripts₁]
    rfl
  unfold attempt
  refine Act.returns_bind (Stage.onWorld_run loaded) ?_
  refine Act.returns_bind (Stage.onGrabber_run started) ?_
  refine body_returns sound rfl (by rw [same, healthy.delivers])
    (healthy.toSupplied.keeps (kinds₁.trans kinds₂) (by rw [scripts]; rfl) (by rw [scripts]; rfl))
    seed isPreview ?_
  rw [scripts]
  exact suits

theorem suits_of_films {config : Config} {rotation : Matrix Float} {width height : Nat}
    {frames : List Frame} {found : List (Option (List Draw.Rect))} {shots : List Shot}
    (films : Films config rotation frames found shots)
    (coloured : ∀ frame ∈ frames, IsColoured width height frame)
    (inside : FindsInside width height found) :
    ∀ frame ∈ frames.take shots.length, Suits config.contours.style frame := by
  intro frame member
  obtain ⟨k, bound, rfl⟩ := List.mem_iff_getElem.mp member
  rw [List.length_take] at bound
  obtain ⟨other, faces, there, come, shown⟩ := films k _ (List.getElem?_eq_getElem (by omega))
  have same : (frames.take shots.length)[k] = other := by
    rw [List.getElem_take]
    exact Option.some.inj ((List.getElem?_eq_getElem _).symm.trans there)
  rw [same]
  have facesInside : ∀ f ∈ faces, f.IsInside width height := by
    rw [List.getD_eq_getElem?_getD] at come
    cases outcome : found[k]? with
    | none =>
        rw [outcome] at come
        cases come
        exact List.forall_mem_nil _
    | some rects =>
        rw [outcome] at come
        cases come
        obtain ⟨_, same, isInside⟩ := inside _ (List.mem_of_getElem? outcome)
        cases same
        exact isInside
  have colour := coloured other (List.mem_of_getElem? there)
  exact (shoot?_isSome colour facesInside).mp (Option.isSome_iff_exists.mpr ⟨_, shown⟩)

/-- In a healthy world a reel can be made and its run returns exactly if the source has a number
where it should, the seed is not below zero, the preview has a table for its gamma, and every frame
that is handled while the preview is open can be warped and have its contours simplified. -/
theorem run_returns_iff {config : Config} {path : String} {first : Frame} {frames : List Frame}
    {w : World} (read : config.IsRead) (healthy : Healthy config path first frames w) :
    (∃ demo stats, Demo.make config (some path) none = .ok demo ∧
        (run (demo, w)).answer = .ok stats) ↔
      (∃ source, config.camera.source.normalize = .ok source) ∧
      (∀ n ∈ config.warp.seed, 0 ≤ n) ∧
      ∃ p, Preview.make config.display.title (config.display.gamma / config.camera.gamma)
          config.display.enabled = .ok p ∧ AllSuit config p w.scripts frames := by
  constructor
  · rintro ⟨demo, stats, made, returned⟩
    obtain ⟨source, isSource, rfl⟩ := make_iff.mp made
    rcases ran : run (Demo.ofSource config (some path) none source, w) with ⟨answer, ⟨demo', w'⟩, t⟩
    rw [ran] at returned
    cases returned
    obtain ⟨p, other, rest, rotation, shots, -, -, -, isPreview, -, delivers, drawn, films, count,
      -⟩ := run_shots read ran
    cases healthy.delivers.symm.trans delivers
    refine ⟨⟨source, isSource⟩, ?_, p, isPreview, ?_⟩
    · exact (drawRotation_returns config (frameSize first) w).mp ⟨rotation, drawn⟩
    · have suits := suits_of_films films healthy.coloured healthy.inside
      rw [count] at suits
      exact suits
  · rintro ⟨⟨source, isSource⟩, seed, p, isPreview, suits⟩
    let demo := Demo.ofSource config (some path) none source
    have returns : Act.Returns (attempt demo) (demo.stage w) :=
      attempt_returns read.sound rfl healthy seed isPreview suits
    obtain ⟨stats, answer⟩ := Act.returns_answer.mp returns
    refine ⟨demo, stats, make_iff.mpr ⟨source, isSource, rfl⟩, ?_⟩
    rw [(run_extends _ w).1]
    exact answer

theorem healthy_black {config : Config} (path : config.recorder.path = "output.avi") :
    Healthy config "m.xml" blackFrame [blackFrame, blackFrame, blackFrame] (blackWorld 4) where
  coloured := by
    intro frame member
    rw [List.eq_of_mem_replicate (n := 3) member]
    exact ⟨rfl, rfl, rfl, rfl⟩
  directory := by
    rw [path]
    decide +kernel
  writer := rfl
  lasting _ never := nomatch never
  inside _ never := nomatch never
  model := by decide +kernel
  cascade := ⟨rfl, rfl, rfl⟩
  opens := rfl
  delivers := rfl
  firstColoured := ⟨rfl, rfl, rfl, rfl⟩

theorem run_returns_short :
    shortConfig.IsRead ∧
      Healthy shortConfig "m.xml" blackFrame [blackFrame, blackFrame, blackFrame] (blackWorld 4) ∧
      ∃ demo stats, Demo.make shortConfig (some "m.xml") none = .ok demo ∧
        (run (demo, blackWorld 4)).answer = .ok stats := by
  have healthy : Healthy shortConfig "m.xml" blackFrame _ (blackWorld 4) := healthy_black rfl
  refine ⟨shortConfig_isRead, healthy, (run_returns_iff shortConfig_isRead healthy).mpr ?_⟩
  have previewed : (makePreview shortDemo).isOk = true := by decide +kernel
  rcases isPreview : makePreview shortDemo with _ | p
  · rw [isPreview] at previewed
    cases previewed
  refine ⟨⟨.index 0, rfl⟩, ?_, p, isPreview, ?_⟩
  · intro n isSeed
    cases isSeed
    decide
  · intro frame member
    rw [List.eq_of_mem_replicate (n := 3) (List.mem_of_mem_take member)]
    exact ⟨by decide, by decide, by decide +kernel⟩

/-- A seed below zero is read like any other, but no rotation can be drawn with it. -/
def sunkenConfig : Config := { shortConfig with warp := { seed := some (-1) } }

theorem run_fails_sunken :
    sunkenConfig.IsRead ∧
      Healthy sunkenConfig "m.xml" blackFrame [blackFrame, blackFrame, blackFrame] (blackWorld 4) ∧
      ∃ demo, Demo.make sunkenConfig (some "m.xml") none = .ok demo ∧
        (run (demo, blackWorld 4)).answer = .error .negativeSeed := by
  refine ⟨⟨[(.text "warp", .map [(.text "seed", .int (-1))]),
    (.text "run", .map [(.text "max_frames", .int 2)])], rfl⟩, healthy_black rfl, _, rfl, ?_⟩
  let sunken : Demo := Demo.ofSource sunkenConfig (some "m.xml") none (.index 0)
  have failed : (match (run (sunken, blackWorld 4)).answer with
      | .error fault => fault == .negativeSeed
      | .ok _ => false) = true := by decide +kernel
  change (run (sunken, blackWorld 4)).answer = .error .negativeSeed
  generalize (run (sunken, blackWorld 4)).answer = answer at failed ⊢
  cases answer with
  | error fault => exact congrArg Except.error (eq_of_beq failed)
  | ok stats => cases failed

end HatReel.Reel
