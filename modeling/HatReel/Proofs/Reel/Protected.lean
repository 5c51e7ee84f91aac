import HatReel.Proofs.Reel.Beginning

/-! The order in which a run begins protects what is there.

A source is opened only after the model has been loaded, and a video only after the first frame has
come. So a run that fails for want of a model or of frames changes nothing but the cache. Once it
records, only frames as large as the first one are written. -/

namespace HatReel.Rig

theorem split_after {t u before after : List Event} {e : Event}
    (whole : t ++ u = before ++ e :: after) (outside : e ∉ t) :
    ∃ v, before = t ++ v ∧ u = v ++ e :: after := by
  rcases List.append_eq_append_iff.mp whole with ⟨v, rfl, rest⟩ | ⟨v, rfl, rest⟩
  · exact ⟨v, rfl, rest⟩
  · cases v with
    | nil =>
        rw [List.nil_append] at rest
        exact ⟨[], by simp, rest.symm⟩
    | cons f v =>
        obtain ⟨rfl, -⟩ := List.cons.inj rest
        exact absurd (by simp) outside

end HatReel.Rig

namespace HatReel.Model

open HatReel.Files HatReel.Log HatReel.Rig

theorem askFiles_ok {α : Type} {f : Store → Except FileFault α} {a : α} {w w' : World}
    {t : List Event} (ran : askFiles f w = ⟨.ok a, w', t⟩) : w = w' ∧ t = [] := by
  unfold askFiles at ran
  split at ran <;> cases ran
  exact ⟨rfl, rfl⟩

theorem load_ok {path : Path} {w w' : World} {t : List Event}
    (ran : load path w = ⟨.ok (), w', t⟩) :
    (∃ logged, t = .cascadeLoad path.text :: logged) ∧ w.scripts.cascade.raises = none ∧
      w.scripts.cascade.loads = true ∧ w.scripts.cascade.empty = false := by
  obtain ⟨found, _, _, _, asked, rest, rfl⟩ := Act.bind_ok ran
  obtain ⟨rfl, rfl⟩ := askFiles_ok asked
  cases found with
  | false => cases rest
  | true =>
      obtain ⟨_, rest₁, rfl⟩ := Act.bind_rest rest (Act.emit_run _ _)
      rw [Act.get_bind] at rest₁
      cases raises : w.scripts.cascade.raises with
      | some reason =>
          simp only [raises] at rest₁
          cases rest₁
      | none =>
          simp only [raises] at rest₁
          cases full : !w.scripts.cascade.loads || w.scripts.cascade.empty with
          | true =>
              simp only [full] at rest₁
              cases rest₁
          | false =>
              simp only [Bool.or_eq_false_iff, Bool.not_eq_false'] at full
              exact ⟨⟨_, rfl⟩, rfl, full.1, full.2⟩

end HatReel.Model

namespace HatReel.Reel

open HatReel.Camera HatReel.Files HatReel.Image HatReel.Log HatReel.Model HatReel.Rig

/-- With these events the model of a run has been resolved, and has been loaded from where it is. -/
def HasLoaded (demo : Demo) (w : World) (t : List Event) : Prop :=
  let c := demo.config.classifier
  ∃ path resolved fetching after,
    resolve demo.model c.cacheDir c.url (.real c.timeout) w = ⟨.ok path, resolved, fetching⟩ ∧
    t = fetching ++ .cascadeLoad path.text :: after ∧ w.scripts.cascade.raises = none ∧
    w.scripts.cascade.loads = true ∧ w.scripts.cascade.empty = false

theorem loadModel_ok {demo : Demo} {w w' : World} {t : List Event}
    (ran : loadModel demo w = ⟨.ok (), w', t⟩) : HasLoaded demo w t := by
  obtain ⟨path, resolved, fetching, loading, resolving, loads, rfl⟩ := Act.bind_ok ran
  have fetches := fetches_resolve demo.model demo.config.classifier.cacheDir
    demo.config.classifier.url (.real demo.config.classifier.timeout) w
  rw [resolving] at fetches
  obtain ⟨responses, scripts⟩ := fetches.scripts
  obtain ⟨⟨logged, rfl⟩, raises, read, full⟩ := load_ok loads
  change resolved.scripts = _ at scripts
  rw [scripts] at raises read full
  exact ⟨path, resolved, fetching, logged, resolving, rfl, raises, read, full⟩

theorem HasLoaded.append {demo : Demo} {w : World} {t : List Event} (loaded : HasLoaded demo w t)
    (u : List Event) : HasLoaded demo w (t ++ u) := by
  obtain ⟨path, resolved, fetching, after, resolving, rfl, rest⟩ := loaded
  exact ⟨path, resolved, fetching, after ++ u, resolving, by simp, rest⟩

def HasRead (t : List Event) : Prop :=
  ∃ loading source starting after,
    t = loading ++ .captureOpen source :: (starting ++ .captureRead true :: after) ∧
    Unread loading ∧ Unread starting

def Demo.cache (demo : Demo) (homes : Homes) : List Key :=
  cacheKeys homes demo.model demo.config.classifier.cacheDir demo.config.classifier.url

theorem spares_loadModelAt (homes : Homes) (demo : Demo) :
    Act.Obeys (fun w _ w' => Spares (demo.cache homes) w w') (loadModelAt homes demo) := by
  let keys := demo.cache homes
  let fetching : Leave := .free keys keys fun _ inside => inside
  have resolves : fetching.Permits (resolveAt homes demo.model demo.config.classifier.cacheDir
      demo.config.classifier.url (.real demo.config.classifier.timeout)) :=
    (allows_resolveAt (fun _ => trivial) _ _ _ _ _ fun _ inside => inside).permits
  apply Act.obeys_bind (spares_joins keys) resolves.spares
  intro path
  let reading : Leave := .free path.trail [] (by simp)
  have loads : reading.Permits (load path) :=
    permits_load (fun _ => trivial) path fun _ inside => inside
  exact Act.obeys_mono loads.spares fun _ _ _ spares => spares.mono (by simp [reading, Leave.free])

theorem spares_loadModel (demo : Demo) (w : World) :
    Spares (demo.cache w.scripts.homes) w (loadModel demo w).state :=
  spares_loadModelAt w.scripts.homes demo w

structure Protects (demo : Demo) (w : World) (r : Ran (Demo × World) Stats) : Prop where
  /-- A source is opened only after the model has been loaded. -/
  loaded : ∀ before source after, r.trace = before ++ .captureOpen source :: after →
    HasLoaded demo w before
  /-- A writer is used only after the first frame has come. -/
  read : ∀ before e after, r.trace = before ++ e :: after → e.device = .writer → HasRead before
  /-- As long as no frame comes nothing is changed but the cache. -/
  unread : goodReads r.trace = 0 → Spares (demo.cache w.scripts.homes) w r.state.2
  /-- Nothing else has been changed when the run begins to record. -/
  recorded : 0 < goodReads r.trace → ∃ first left ready s before filming after,
    (Grabber.nextCapture w).reads = some first :: left ∧
      Spares (demo.cache w.scripts.homes) w ready.world ∧
    recording demo first ready = ⟨r.answer, s, filming⟩ ∧
    r.trace = before ++ .captureRead true :: (filming ++ after)
  /-- A run that fails for want of a model or frames uses no writer and changes the cache only. -/
  failed : ∀ fault, r.answer = .error fault → fault.isOfInput = true →
    (∀ e ∈ r.trace, e.device ≠ .writer) ∧ Spares (demo.cache w.scripts.homes) w r.state.2
  /-- A writer is opened for frames as large as the first one, and gets no others. -/
  sized : ∀ first left, (Grabber.nextCapture w).reads = some first :: left →
    ∀ e ∈ r.trace, e.Fits first.width first.height
  /-- A run that reads a frame of another size ends with it. -/
  resized : ∀ first left k odd, (Grabber.nextCapture w).reads = some first :: left →
    (delivered left)[k]? = some odd → k + 1 < goodReads r.trace →
    ¬(odd.width = first.width ∧ odd.height = first.height) →
    goodReads r.trace = k + 2 ∧
      ∃ fault, r.answer = .error fault ∧ FailsAfter demo first w k odd fault

theorem protects_unread {demo : Demo} {w : World} {r : Ran (Demo × World) Stats}
    (loaded : ∀ before source after, r.trace = before ++ .captureOpen source :: after →
      HasLoaded demo w before)
    (within : ∀ e ∈ r.trace, e.device ≠ .writer) (unread : goodReads r.trace = 0)
    (spares : Spares (demo.cache w.scripts.homes) w r.state.2) : Protects demo w r where
  loaded := loaded
  read := by
    intro before e after whole writer
    exact absurd writer (within e (by simp [whole]))
  unread _ := spares
  recorded read := absurd unread (Nat.pos_iff_ne_zero.mp read)
  failed _ _ _ := ⟨within, spares⟩
  sized first _ _ e member := Event.fits_other (within e member) _ _
  resized := by
    intro first left k odd _ _ read
    rw [unread] at read
    exact absurd read (Nat.not_lt_zero _)

section

variable {demo : Demo} {w w₁ : World} {loading : List Event}
  (loads : loadModel demo w = ⟨.ok (), w₁, loading⟩)

include loads

theorem loaded_fetches : Fetches w loading w₁ := by
  have fetches := fetches_loadModel demo w
  rw [loads] at fetches
  exact fetches

/-- What comes after the loading has the model loaded before it. -/
theorem loaded_before {u : List Event} {before after : List Event} {source : Source}
    (whole : loading ++ u = before ++ .captureOpen source :: after) : HasLoaded demo w before := by
  have fetches := loaded_fetches loads
  obtain ⟨v, rfl, -⟩ := split_after whole fun member =>
    absurd (fetches.within _ member) (by simp [Event.device])
  exact (loadModel_ok loads).append v

theorem loaded_capture : Grabber.nextCapture w₁ = Grabber.nextCapture w := by
  obtain ⟨responses, scripts⟩ := (loaded_fetches loads).scripts
  simp only [Grabber.nextCapture, scripts]

section

variable {starting rest : List Event} (unread : Unread starting)

include unread

/-- The read that gives the first frame is one more than those that follow. -/
theorem recorded_count :
    goodReads (loading ++ (.captureOpen demo.grabber.source ::
      (starting ++ (.captureRead true :: rest)))) = goodReads rest + 1 := by
  have fetches := loaded_fetches loads
  have opening : goodReads [.captureOpen demo.grabber.source] = 0 := rfl
  have reading : goodReads [.captureRead true] = 1 := rfl
  calc
    goodReads (loading ++ ([.captureOpen demo.grabber.source] ++ (starting ++
        ([.captureRead true] ++ rest))))
        = 0 + (0 + (0 + (1 + goodReads rest))) := by
      rw [goodReads_append, goodReads_append, goodReads_append, goodReads_append,
        fetches.idle.unread, unread.goodReads, opening, reading]
    _ = goodReads rest + 1 := by omega

theorem recorded_read (within : Within [.camera, .journal] starting) {before after : List Event}
    {e : Event} (whole : loading ++ (.captureOpen demo.grabber.source ::
      (starting ++ (.captureRead true :: rest))) = before ++ e :: after)
    (writer : e.device = .writer) : HasRead before := by
  have fetches := loaded_fetches loads
  have parts : loading ++ (.captureOpen demo.grabber.source ::
      (starting ++ (.captureRead true :: rest))) =
      (loading ++ .captureOpen demo.grabber.source :: (starting ++ [.captureRead true])) ++
        rest := by
    simp only [List.append_assoc, List.cons_append, List.nil_append]
  have camera : Within [.camera, .journal] (.captureOpen demo.grabber.source ::
      (starting ++ [.captureRead true])) :=
    Within.cons (by simp [Event.device]) (within.append (Within.single (by simp [Event.device])))
  have outside : e ∉ loading ++ .captureOpen demo.grabber.source ::
      (starting ++ [.captureRead true]) := by
    intro member
    rcases List.mem_append.mp member with fetching | opening
    · exact absurd (fetches.within e fetching) (by simp [writer])
    · exact absurd (camera e opening) (by simp [writer])
  obtain ⟨v, rfl, -⟩ := split_after (parts.symm.trans whole) outside
  exact ⟨loading, demo.grabber.source, starting, v, by simp,
    fetches.within.unread (by decide), unread⟩

end

theorem recorded_fits {first : Frame} {ready : Stage} {starting ending : List Event}
    (within : Within [.camera, .journal] starting) (bare : ready.recorder = none)
    (fits : ∀ e ∈ ending, e.Fits first.width first.height) :
    ∀ e ∈ loading ++ (.captureOpen demo.grabber.source :: (starting ++ (.captureRead true ::
      ((recording demo first ready).trace ++ ending)))), e.Fits first.width first.height := by
  have fetches := loaded_fetches loads
  intro e member
  simp only [List.mem_append, List.mem_cons] at member
  rcases member with loaded | rfl | started | rfl | filmed | ended
  · exact fits_within fetches.within (by decide) _ _ e loaded
  · trivial
  · exact fits_within within (by decide) _ _ e started
  · trivial
  · exact fits_recording bare e filmed
  · exact fits e ended

/-- How a run fails by a frame of another size depends on the world that it began in. -/
theorem recorded_fails {first odd : Frame} {ready : Stage} {k : Nat} {fault : Fault}
    (scripts : ready.world.scripts = (Grabber.captureTaken w₁).scripts)
    (fails : FailsAfter demo first ready.world k odd fault) :
    FailsAfter demo first w k odd fault := by
  obtain ⟨responses, scripts₁⟩ := (loaded_fetches loads).scripts
  have now : ready.world.scripts = { (Grabber.captureTaken w).scripts with
      responses := responses } := by
    rw [scripts, Grabber.captureTaken, Grabber.captureTaken, scripts₁]
  obtain ⟨rotation, drawn, fails⟩ := fails
  refine ⟨rotation, ?_, ?_⟩
  · rw [← drawn]
    exact drawRotation_entropy _ _ (by rw [now]; rfl)
  · rw [now] at fails
    exact fails

theorem protects_recorded {first : Frame} {left : List (Option Frame)} {ready s : Stage}
    {last : Demo × World} {answer : Except Fault Stats} {starting filming ending : List Event}
    (comes : (Grabber.nextCapture w₁).reads = some first :: left) (unread : Unread starting)
    (within : Within [.camera, .journal] starting)
    (holding : ready.grabber.capture = some ⟨left⟩) (bare : ready.recorder = none)
    (scripts : ready.world.scripts = (Grabber.captureTaken w₁).scripts)
    (spares : Spares [] w₁ ready.world)
    (ran : recording demo first ready = ⟨answer, s, filming⟩)
    (fits : ∀ width height, ∀ e ∈ ending, e.Fits width height) (idle : goodReads ending = 0) :
    Protects demo w ⟨answer, last, loading ++ (.captureOpen demo.grabber.source ::
      (starting ++ (.captureRead true :: (filming ++ ending))))⟩ := by
  have before := spares_loadModel demo w
  have late := late_recording demo first ready (by simp [Grabber.isStarted, holding])
  have sized := recorded_fits loads within bare (fits first.width first.height)
  rw [loads] at before
  rw [ran] at late sized
  rw [loaded_capture loads] at comes
  have count : goodReads (loading ++ (.captureOpen demo.grabber.source ::
      (starting ++ (.captureRead true :: (filming ++ ending))))) = goodReads filming + 1 := by
    rw [recorded_count loads unread, goodReads_append, idle, Nat.add_zero]
  exact {
    loaded := fun _ _ _ whole => loaded_before loads whole
    read := fun _ _ _ whole writer => recorded_read loads unread within whole writer
    unread := by
      intro never
      rw [count] at never
      cases never
    recorded := by
      intro _
      exact ⟨first, left, ready, s, loading ++ .captureOpen demo.grabber.source :: starting,
        filming, ending, comes, before.trans (spares.mono (by simp)), ran, by simp⟩
    failed := by
      intro fault failed input
      rw [late.2 fault failed] at input
      cases input
    sized := by
      intro frame rest again
      cases comes.symm.trans again
      exact sized
    resized := by
      intro frame rest k odd again odds read other
      cases comes.symm.trans again
      rw [count] at read ⊢
      obtain ⟨ended, fault, failed, fails⟩ :=
        recording_resized ran holding odds (Nat.lt_of_succ_lt_succ read) other
      exact ⟨by rw [ended], fault, failed, recorded_fails loads scripts fails⟩ }

end

/-- Every run protects what is there, however it ends. -/
theorem run_protects (demo : Demo) (w : World) : Protects demo w (run (demo, w)) := by
  have spares := spares_loadModel demo w
  have fetches := fetches_loadModel demo w
  rcases loads : loadModel demo w with ⟨fault | ⟨⟩, w₁, loading⟩ <;> rw [loads] at spares fetches
  · rw [run_of_unloaded loads]
    refine protects_unread ?_ ?_ fetches.idle.unread spares
    · rintro before source after rfl
      exact absurd (fetches.within (.captureOpen source) (by simp)) (by simp [Event.device])
    · intro e member writer
      exact absurd (fetches.within e member) (by simp [writer])
  · have begun := perform_begun demo w₁
    rcases performed : perform demo (demo.stage w₁) with ⟨answer, s, t⟩
    rw [performed] at begun
    rw [run_of_perform loads performed]
    cases begun with
    | barren fault s t input within unread after =>
        refine protects_unread (fun _ _ _ whole => loaded_before loads whole) ?_ ?_
          (spares.trans (after.mono (by simp)))
        · intro e member writer
          rcases List.mem_append.mp member with loaded | later
          · exact absurd (fetches.within e loaded) (by simp [writer])
          · exact absurd (within e later) (by simp [writer])
        · change goodReads (loading ++ t) = 0
          rw [goodReads_append, fetches.idle.unread, unread]
    | recorded first left ready s s' answer starting filming ending comes unread within holding bare
        scripts after ran fits idle =>
        exact protects_recorded loads comes unread within holding bare scripts after ran fits idle

def grayFrame : Frame := ⟨3, 2, 1, Vector.replicate 6 0⟩

def grayWorld : World := { blackWorld 0 with
  scripts := { captures := [⟨true, [some blackFrame, some grayFrame]⟩] } }

/-- A frame of another size that cannot be processed does not come as far as the recorder. -/
theorem run_fails_gray :
    (Grabber.nextCapture grayWorld).reads = [some blackFrame, some grayFrame] ∧
      grayFrame.width ≠ blackFrame.width ∧ goodReads (run (shortDemo, grayWorld)).trace = 2 ∧
      (run (shortDemo, grayWorld)).answer = .error .picture := by
  refine ⟨rfl, by decide, by decide +kernel, ?_⟩
  have failed : (match (run (shortDemo, grayWorld)).answer with
      | .error fault => fault == .picture
      | .ok _ => false) = true := by decide +kernel
  generalize (run (shortDemo, grayWorld)).answer = answer at failed ⊢
  cases answer with
  | error fault => exact congrArg Except.error (eq_of_beq failed)
  | ok stats => cases failed

end HatReel.Reel
