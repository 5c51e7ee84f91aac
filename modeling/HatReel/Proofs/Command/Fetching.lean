import HatReel.Proofs.Command.Outcomes
import HatReel.Proofs.Model.Failing
import HatReel.Proofs.Reel.Cached
import HatReel.Proofs.Rig.Prints
import HatReel.Proofs.Settings.RoundTrip

/-! Fetching the model beforehand.

The command that fetches a model and a run look for it in the same place. What the command leaves a
run can start from: the settings load as before, the log is set up again as it is, and the model is
there. And where its download fails, a run from the same files comes just as far, with the same
requests and the same words. -/

namespace HatReel.Command

open HatReel.Camera HatReel.Files HatReel.Files.Store HatReel.Log HatReel.Model HatReel.Reel
  HatReel.Rig HatReel.Settings

abbrev modelKeys (c : Config) (homes : Homes) : List Key :=
  cacheKeys homes none c.classifier.cacheDir c.classifier.url

def Says (w : World) (text : String) (w' : World) : Prop :=
  ∃ told, Within [.journal] told ∧ w'.console = w.console ++ logText told ++ text

theorem Says.of_prints {w w' : World} {t : List Event} (prints : Prints w t w') (text : String) :
    Says w text { w' with console := w'.console ++ text } := by
  obtain ⟨told, within, console⟩ := prints
  exact ⟨told, within, congrArg (· ++ text) console⟩

def modelLeave (c : Config) (homes : Homes) : Leave :=
  .free (modelKeys c homes) (modelKeys c homes) fun _ inside => inside

theorem allows_cachedModelAt (c : Config) (homes : Homes) :
    (modelLeave c homes).Allows (cachedModelAt homes c) :=
  allows_resolveAt (fun _ => trivial) homes none _ _ _ fun _ inside => inside

theorem cachedModel_eq (c : Config) (w : World) :
    cachedModel c w = cachedModelAt w.scripts.homes c w := rfl

theorem prints_cachedModel (c : Config) : Act.Obeys Prints (cachedModel c) := fun w =>
  (allows_cachedModelAt c w.scripts.homes).permits.prints w

inductive Fetched (c : Config) (w : World) : Ran World Nat → Prop where
  | unlogged {w' : World} {fault : Fault} {t : List Event}
      (sets : setUp c w = ⟨.error fault, w', t⟩) :
      Fetched c w ⟨.error fault, w', t⟩
  | found {ready w' : World} {model : Path} {t : List Event}
      (sets : setUp c w = ⟨.ok (), ready, []⟩)
      (resolves : cachedModel c ready = ⟨.ok model, w', t⟩) :
      Fetched c w ⟨.ok 0, { w' with console := w'.console ++ (model.text ++ "\n") }, t⟩
  | failed {ready w' : World} {fault : Fault} {t : List Event}
      (sets : setUp c w = ⟨.ok (), ready, []⟩)
      (resolves : cachedModel c ready = ⟨.error fault, w', t⟩)
      (foreseen : fault.isForeseen = true) :
      Fetched c w ⟨.ok 1, { w' with console := w'.console ++ errorText fault }, t⟩
  | broken {ready w' : World} {fault : Fault} {t : List Event}
      (sets : setUp c w = ⟨.ok (), ready, []⟩)
      (resolves : cachedModel c ready = ⟨.error fault, w', t⟩)
      (unforeseen : fault.isForeseen = false) : Fetched c w ⟨.error fault, w', t⟩

theorem fetch_fetched (c : Config) (w : World) : Fetched c w (fetch c w) := by
  have shape : fetch c = (do
      setUp c
      .recover
        (do
          let path ← cachedModel c
          say path.text
          return 0)
        report) := rfl
  rw [shape]
  rcases sets : setUp c w with ⟨fault | ⟨⟩, ready, t₀⟩
  · rw [Act.bind_of_error _ sets]
    exact .unlogged sets
  · obtain ⟨rfl, -⟩ := setUp_ok sets
    rw [Act.bind_of_ok _ sets]
    rcases resolves : cachedModel c ready with ⟨fault | model, w', t⟩
    · have unresolved := Act.bind_of_error (fun path => do say path.text; return 0) resolves
      cases foreseen : fault.isForeseen with
      | true =>
          rw [Act.recover_error unresolved (report_foreseen foreseen w')]
          simpa [Ran.after] using Fetched.failed sets resolves foreseen
      | false =>
          have reported : report fault w' = ⟨.error fault, w', []⟩ := by
            rw [report, if_neg (by simp [foreseen])]
            rfl
          rw [Act.recover_error unresolved reported]
          simpa [Ran.after] using Fetched.broken sets resolves foreseen
    · have said : (do say model.text; return 0 : Act World Nat) w' =
          ⟨.ok 0, { w' with console := w'.console ++ model.text ++ "\n" }, []⟩ := rfl
      rw [String.append_assoc] at said
      rw [Act.recover_ok _ (Act.bind_run resolves said (List.append_nil t).symm)]
      exact .found sets resolves

theorem start_fetch {line others : List String} {values : Values} {path : String} {w : World}
    (reads : fetchGrammar.read line = .ok (.given values others))
    (file : values.text? "--config" = some path) :
    start ("fetch-model" :: line) w =
      match load w.files (some path) with
      | .error fault => { exitCode := 1, failure := some (.settings fault), world := w }
      | .ok c => ending (fetch c) w := by
  change onLine fetchGrammar line (fun v _ => withConfig v fetch) w = _
  cases loads : load w.files (some path) with
  | error fault => simp only [onLine, reads, withConfig, file, loads]
  | ok c => simp only [onLine, reads, withConfig, file, loads]

/-- What a run needs of the files: the log can be set up as it is, and the model is there. -/
structure Supplied (c : Config) (homes : Homes) (model : Path) (s : Store) : Prop where
  logged : ∃ next, s.prepareLog (logPath? c.logging.file) = (next, none) ∧
    ∀ key, next.node? key = s.node? key
  placed : cachedPath c.classifier.url c.classifier.cacheDir homes = .ok model
  there : s.exists? model = .ok true

section

variable {c : Config} {w ready w' : World} {t : List Event} (sets : setUp c w = ⟨.ok (), ready, []⟩)

include sets

theorem cachedModel_leaves {answer : Except Fault Path}
    (resolves : cachedModel c ready = ⟨answer, w', t⟩) :
    ∃ s, w.files.prepareLog (logPath? c.logging.file) = (s, none) ∧
      ready = w.logging c.logging.level.number c.logging.file s ∧ Keeps s w'.files ∧
      Spares (modelKeys c w.scripts.homes) ready w' := by
  obtain ⟨-, s, prepared, rfl⟩ := setUp_ok sets
  have allows := allows_cachedModelAt c w.scripts.homes
  have keeps := allows.keeps (w.logging c.logging.level.number c.logging.file s)
  have spares := allows.permits.spares (w.logging c.logging.level.number c.logging.file s)
  rw [cachedModel_eq] at resolves
  change cachedModelAt w.scripts.homes c _ = _ at resolves
  rw [resolves] at keeps spares
  exact ⟨s, prepared, rfl, keeps, spares⟩

/-- Settings load as before if fetching has left their file as it was. -/
theorem cachedModel_loads {answer : Except Fault Path} {path : String}
    (resolves : cachedModel c ready = ⟨answer, w', t⟩) (loads : load w.files (some path) = .ok c)
    (kept : w'.files.node? (Path.ofText path).goal = w.files.node? (Path.ofText path).goal) :
    load w'.files (some path) = .ok c := by
  obtain ⟨s, prepared, -, keeps, -⟩ := cachedModel_leaves sets resolves
  exact loadFile_kept loads ((prepareLog_keeps prepared).trans keeps) kept

/-- The file of the settings is left as it was if it is neither the log nor in the cache. -/
theorem cachedModel_kept {answer : Except Fault Path} {path : String}
    (resolves : cachedModel c ready = ⟨answer, w', t⟩) (loads : load w.files (some path) = .ok c)
    (unlogged : (Path.ofText path).goal ∉ logKey? c.logging.file)
    (outside : (Path.ofText path).goal ∉ modelKeys c w.scripts.homes) :
    w'.files.node? (Path.ofText path).goal = w.files.node? (Path.ofText path).goal := by
  obtain ⟨s, prepared, rfl, -, spares⟩ := cachedModel_leaves sets resolves
  obtain ⟨content, looked⟩ := loadFile_look loads
  have found := follow_node (look_ok looked)
  rw [spares.untouched _ outside (mt mem_logSinks.mp unlogged), found]
  exact prepareLog_kept prepared found (.inr unlogged)

theorem cachedModel_supplies {model : Path} (resolves : cachedModel c ready = ⟨.ok model, w', t⟩)
    (apart : ∀ key ∈ logKey? c.logging.file, key ∉ modelKeys c w.scripts.homes) :
    Supplied c w.scripts.homes model w'.files := by
  obtain ⟨s, prepared, rfl, keeps, spares⟩ := cachedModel_leaves sets resolves
  have placed := resolveAt_ok ((cachedModel_eq c _).symm.trans resolves)
  refine ⟨prepareLog_again prepared keeps ?_, placed, resolve_there resolves⟩
  -- the log was made before, and since then it can only have grown
  intro key isLog
  obtain ⟨content, made⟩ := prepareLog_there prepared
  rcases spares.extended key (apart key isLog) with same | ⟨old, more, -, grown⟩
  · exact ⟨content, same.trans (made key isLog)⟩
  · exact ⟨old ++ more, grown⟩

end

/-- A line asks for a run with the settings in a file and from a source that is one, and names no
model. -/
structure Plain (path : String) (c : Config) (chosen : Values) (line : List String) : Prop where
  reads : runGrammar.read line = .ok (.given chosen [])
  file : chosen.text? "--config" = some path
  source : ∃ source, (chosen.apply c).camera.source.normalize = .ok source

structure Complains (w : World) (fault : Fault) (ended : Ended) : Prop where
  exit : ended.exitCode = 1
  reported : ended.failure.isNone = true
  words : Says w (errorText fault) ended.world

theorem start_plain {path : String} {chosen : Values} {line : List String} {v : World}
    (reads : runGrammar.read line = .ok (.given chosen []))
    (file : chosen.text? "--config" = some path) :
    start ("run" :: line) v =
      match load v.files (some path) with
      | .error fault => { exitCode := 1, failure := some (.settings fault), world := v }
      | .ok c => ending (record (chosen.apply c) none) v := by
  rw [start_run]
  cases loads : load v.files (some path) with
  | error fault => simp only [onLine, reads, withConfig, file, loads]
  | ok c =>
      simp only [onLine, reads, withConfig, file, loads]
      rfl

theorem close_within (answer : Except Fault Stats) (w : World) :
    Within [.journal] (close answer w).trace := by
  cases answer with
  | ok stats => exact Within.nil
  | error fault =>
      cases foreseen : fault.isForeseen with
      | true =>
          obtain ⟨w', t, logged, logs⟩ := log_run .error loggerName fault.message w
          rw [close_foreseen foreseen logged]
          exact logs.within
      | false =>
          rw [close_unforeseen foreseen]
          exact Within.nil

theorem logRuntime_spares {w w' : World} {t : List Event}
    (tells : logRuntime loggerName w = ⟨.ok (), w', t⟩) : Spares [] w w' := by
  have spares := (permits_logRuntime (l := .free [] [] fun _ inside => inside) loggerName).spares w
  rw [tells] at spares
  exact spares

section

variable {c : Config} {model : Option String} {w ready w₁ w₂ w₃ : World} {fault : Fault}
  {t₁ t₂ t₃ : List Event} (foreseen : fault.isForeseen = true)
  (sets : setUp c w = ⟨.ok (), ready, []⟩) (tells : logRuntime loggerName ready = ⟨.ok (), w₁, t₁⟩)
  (plays : play c model w₁ = ⟨.error fault, w₂, t₂⟩)
  (logged : log .error loggerName fault.message w₂ = ⟨.ok (), w₃, t₃⟩)

include foreseen sets tells plays logged

theorem ending_foreseen : ending (record c model) w =
    { exitCode := 1, world := { w₃ with console := w₃.console ++ errorText fault },
      trace := t₁ ++ t₂ ++ t₃ } := by
  unfold ending
  rw [record_run sets tells plays, close_foreseen foreseen logged]
  rfl

theorem record_complains : Complains w fault (ending (record c model) w) := by
  obtain ⟨-, s, -, rfl⟩ := setUp_ok sets
  have prints₁ := (permits_logRuntime (l := .free [] [] fun _ inside => inside) loggerName).prints
    (w.logging c.logging.level.number c.logging.file s)
  have prints₂ := play_obeys c model prints_joins w₁ fun _ _ is => is.prints
  have prints₃ := prints_log .error loggerName fault.message w₂
  rw [tells] at prints₁
  rw [plays] at prints₂
  rw [logged] at prints₃
  have prints : Prints w (t₁ ++ (t₂ ++ t₃)) w₃ :=
    prints_joins.join prints₁ (prints_joins.join prints₂ prints₃)
  rw [ending_foreseen foreseen sets tells plays logged]
  exact ⟨rfl, rfl, Says.of_prints prints _⟩

end

/-- A run hands the model to the detector before it uses any device, unless the model is no file,
which it says. -/
inductive Hands (model : Path) (v : World) (ended : Ended) : Prop where
  | handed (hands : HandsOver model ended.trace)
  | missed (noFile : v.files.isFile? model = .ok false) (within : Within [.journal] ended.trace)
      (complains : Complains v (.modelMissing model.text) ended)

/-- On files that it is supplied with a run loads the model that is there. -/
theorem start_supplied {path : String} {c : Config} {chosen : Values} {line : List String}
    {model : Path} {v : World} (plain : Plain path c chosen line)
    (loads : load v.files (some path) = .ok c)
    (supplied : Supplied c v.scripts.homes model v.files) :
    Hands model v (start ("run" :: line) v) := by
  obtain ⟨next, prepared, same⟩ := supplied.logged
  obtain ⟨source, normal⟩ := plain.source
  have sets : setUp (chosen.apply c) v = ⟨.ok (), _, []⟩ :=
    setUpLoggingAt_of (chosen.apply c).logging.level.number prepared
  obtain ⟨w₁, t₁, tells, logs⟩ := logRuntime_run loggerName
    (v.logging (chosen.apply c).logging.level.number c.logging.file next)
  have kinds : SameKinds v.files w₁.files := by
    intro key _
    rw [← same key]
    exact (logRuntime_spares tells).kinds key trivial
  have there : w₁.files.exists? model = .ok true :=
    (exists?_like kinds tells_isDirectory fun _ _ => trivial).trans supplied.there
  have isFile : w₁.files.isFile? model = v.files.isFile? model :=
    isFile?_like kinds tells_isDirectory fun _ _ => trivial
  have started : start ("run" :: line) v = ending (record (chosen.apply c) none) v := by
    rw [start_plain plain.reads plain.file, loads]
  rw [started]
  obtain ⟨trace, -⟩ := ending_leaves (record (chosen.apply c) none) v
  have homes : w₁.scripts.homes = v.scripts.homes := congrArg Scripts.homes logs.scripts
  rcases play_cached normal (homes ▸ supplied.placed) there with
    ⟨noFile, w₂, t₂, plays, within⟩ | hands
  · obtain ⟨w₃, t₃, logged, -⟩ :=
      log_run .error loggerName (Fault.modelMissing model.text).message w₂
    refine .missed (isFile.symm.trans noFile) ?_ (record_complains rfl sets tells plays logged)
    rw [trace, record_run sets tells plays]
    exact (logs.within.append within).append (close_within _ _)
  · refine .handed ?_
    rcases plays : play (chosen.apply c) none w₁ with ⟨answer, w₂, t₂⟩
    rw [plays] at hands
    rw [trace, record_run sets tells plays]
    exact (hands.before logs.within).after (close_within _ _)

/-- A run fails as fetching the model does: with the same words, after the same requests, with the
same files left apart from the log, and before it has used any device. -/
structure FailsAlike (c : Config) (fault : Fault) (v : World) (fetched ran : Ended) : Prop where
  complains : Complains v fault ran
  requests : ran.trace.filter Event.acts = fetched.trace.filter Event.acts
  within : Within [.network, .model, .journal] ran.trace
  files : ∀ key ∉ logKey? c.logging.file,
    ran.world.files.node? key = fetched.world.files.node? key

section

variable {path : String} {c : Config} {chosen : Values} {line : List String} {w ready w' v : World}
  {fault : Fault} {t : List Event}

/-- In the world of a run from the same files the model fails to come as it does for the command. -/
theorem cachedModel_twins
    (apart : ∀ key ∈ logKey? c.logging.file, key ∉ modelKeys c w.scripts.homes)
    (twins : Twins (· ∉ logKey? c.logging.file) w v) (homes : v.scripts.homes = w.scripts.homes) :
    Alike Event.acts (Twins (· ∉ logKey? c.logging.file)) (cachedModel c w) (cachedModel c v) := by
  have seen : ∀ key ∈ modelKeys c w.scripts.homes, key ∉ logKey? c.logging.file :=
    fun key inside isLog => apart key isLog inside
  rw [cachedModel_eq, cachedModel_eq, homes]
  exact (allows_cachedModelAt c w.scripts.homes).agrees (twins_parallel _) seen w v twins

/-- Where fetching the model fails a run from the same files fails alike. -/
theorem start_unresolved (plain : Plain path c chosen line)
    (loads : load w.files (some path) = .ok c)
    (apart : ∀ key ∈ logKey? c.logging.file, key ∉ modelKeys c w.scripts.homes)
    (sets : setUp c w = ⟨.ok (), ready, []⟩)
    (resolves : cachedModel c ready = ⟨.error fault, w', t⟩) (foreseen : fault.isForeseen = true)
    (files : v.files = w.files) (homes : v.scripts.homes = w.scripts.homes)
    (responses : v.scripts.responses = w.scripts.responses) :
    let fetched : Ended :=
      { exitCode := 1, world := { w' with console := w'.console ++ errorText fault }, trace := t }
    FailsAlike c fault v fetched (start ("run" :: line) v) := by
  obtain ⟨source, normal⟩ := plain.source
  obtain ⟨-, s, prepared, rfl⟩ := setUp_ok sets
  have setsToo : setUp (chosen.apply c) v = ⟨.ok (), _, []⟩ :=
    setUpLoggingAt_of (chosen.apply c).logging.level.number (files ▸ prepared)
  let fetching := w.logging c.logging.level.number c.logging.file s
  let running := v.logging (chosen.apply c).logging.level.number c.logging.file s
  obtain ⟨w₁, t₁, tells, logs⟩ := logRuntime_run loggerName running
  have begun : Twins (· ∉ logKey? c.logging.file) fetching running :=
    ⟨responses, Like.refl s, fun outside => mt mem_logSinks.mp outside,
      fun outside => mt mem_logSinks.mp outside⟩
  have told : Twins (· ∉ logKey? c.logging.file) fetching w₁ :=
    begun.spared (Spares.refl [] fetching) ⟨rfl, Within.nil⟩ (logRuntime_spares tells) logs
  have alike := cachedModel_twins (w := fetching) apart told
    ((congrArg Scripts.homes logs.scripts :).trans homes)
  have fetches : Fetches w₁ (cachedModel c w₁).trace (cachedModel c w₁).state :=
    fetches_resolve none _ _ _ w₁
  rcases unresolved : cachedModel c w₁ with ⟨answer, w₂, t₂⟩
  rw [unresolved] at fetches
  rw [resolves, unresolved] at alike
  obtain ⟨rfl, worlds, looks⟩ := alike
  have plays : play (chosen.apply c) none w₁ = ⟨.error fault, w₂, t₂⟩ :=
    play_unresolved normal unresolved
  obtain ⟨w₃, t₃, logged, messages⟩ := log_run .error loggerName fault.message w₂
  have spares := spares_log [] .error loggerName fault.message w₂
  rw [logged] at spares
  have ended := ending_foreseen foreseen setsToo tells plays logged
  have complains := record_complains foreseen setsToo tells plays logged
  have started : start ("run" :: line) v = ending (record (chosen.apply c) none) v := by
    rw [start_plain plain.reads plain.file, files, loads]
  rw [started]
  refine ⟨complains, ?_, ?_, ?_⟩
  · rw [ended]
    change (t₁ ++ t₂ ++ t₃).filter Event.acts = t.filter Event.acts
    rw [List.filter_append, List.filter_append, logs.within.idles, messages.within.idles, looks,
      List.nil_append, List.append_nil]
  · rw [ended]
    exact ((logs.within.mono (by decide)).append fetches.within).append
      (messages.within.mono (by decide))
  · intro key outside
    rw [ended]
    change w₃.files.node? key = w'.files.node? key
    rw [spares.untouched key List.not_mem_nil (worlds.unloggedToo outside)]
    have same := worlds.files key outside
    rwa [Option.map_id, id, id] at same

end

/-- The command that fetches the model of the settings in a file, and runs with the same settings
and without a model. If the command ends with zero it has shown where the model lies, and a run on
the files that it has left leaves the network alone and loads the model from there, unless the file
of the settings has changed; that it does not if it is neither the log nor in the cache. If the
download fails, a run from the same files fails alike. -/
theorem fetch_run {path : String} {line others : List String} {values : Values} {w : World}
    (reads : fetchGrammar.read line = .ok (.given values others))
    (file : values.text? "--config" = some path)
    (apart : ∀ c, load w.files (some path) = .ok c →
      ∀ key ∈ logKey? c.logging.file, key ∉ modelKeys c w.scripts.homes) :
    let fetched := start ("fetch-model" :: line) w
    let config := (Path.ofText path).goal
    (fetched.exitCode = 0 →
      ∃ c model, load w.files (some path) = .ok c ∧ Says w (model.text ++ "
") fetched.world ∧
        (config ∉ logKey? c.logging.file → config ∉ modelKeys c w.scripts.homes →
          fetched.world.files.node? config = w.files.node? config) ∧
        (fetched.world.files.node? config = w.files.node? config →
          ∀ chosen running v, Plain path c chosen running → v.files = fetched.world.files →
            v.scripts.homes = w.scripts.homes → Hands model v (start ("run" :: running) v))) ∧
    (fetched.exitCode = 1 → fetched.failure.isNone = true →
      ∃ c reason, load w.files (some path) = .ok c ∧
        Complains w (.download c.classifier.url reason) fetched ∧
        ∀ chosen running v, Plain path c chosen running → v.files = w.files →
          v.scripts.homes = w.scripts.homes → v.scripts.responses = w.scripts.responses →
          FailsAlike c (.download c.classifier.url reason) v fetched
            (start ("run" :: running) v)) := by
  intro fetched config
  cases loads : load w.files (some path) with
  | error fault =>
      have ended : fetched = { exitCode := 1, failure := some (.settings fault), world := w } := by
        rw [show fetched = _ from start_fetch reads file, loads]
      clear_value fetched
      subst ended
      exact ⟨nofun, nofun⟩
  | ok c =>
      have ended : fetched = ending (fetch c) w := by
        rw [show fetched = _ from start_fetch reads file, loads]
      have apart := apart c loads
      have ends := fetch_fetched c w
      clear_value fetched
      unfold ending at ended
      generalize fetch c w = ran at ends ended
      cases ends with
      | unlogged sets =>
          subst ended
          exact ⟨nofun, nofun⟩
      | broken sets resolves unforeseen =>
          subst ended
          exact ⟨nofun, nofun⟩
      | @found ready w' model t sets resolves =>
          subst ended
          have prints := prints_cachedModel c ready
          rw [resolves] at prints
          have supplied := cachedModel_supplies sets resolves apart
          have kept (unlogged : config ∉ logKey? c.logging.file)
              (outside : config ∉ modelKeys c w.scripts.homes) :=
            cachedModel_kept sets resolves loads unlogged outside
          refine ⟨fun _ => ⟨c, model, rfl, ?_, kept, ?_⟩, nofun⟩
          · obtain ⟨-, s, -, rfl⟩ := setUp_ok sets
            exact Says.of_prints prints _
          · rintro kept chosen running v plain files homes
            have left : v.files = w'.files := files
            refine start_supplied plain ?_ (left ▸ homes ▸ supplied)
            rw [left]
            exact cachedModel_loads sets resolves loads kept
      | @failed ready w' fault t sets resolves foreseen =>
          subst ended
          obtain ⟨reason, rfl⟩ := resolve_misses resolves foreseen
          have prints := prints_cachedModel c ready
          rw [resolves] at prints
          refine ⟨nofun, fun _ _ => ⟨c, reason, rfl, ⟨rfl, rfl, ?_⟩, ?_⟩⟩
          · obtain ⟨-, s, -, rfl⟩ := setUp_ok sets
            exact Says.of_prints prints _
          · rintro chosen running v plain files homes responses
            exact start_unresolved plain loads apart sets resolves foreseen files homes responses

/-- A world with settings that name a directory for the model and a log, and with a model to
download. -/
def settingsWorld (log : String) : World where
  scripts := { responses := [.answered 200 ["<x/>"] .complete] }
  files := ⟨[(["", "c.yaml"], .file (Text.utf8
    ("classifier:\n  url: m.xml\n  cache_dir: models\nlogging:\n  file: " ++ log ++ "\n")))]⟩

def configLine : List String := ["--config", "c.yaml"]

def configValues : Values := [("--config", .text "c.yaml")]

def fetchedEnd (log : String) : Ended := start ("fetch-model" :: configLine) (settingsWorld log)

def fetchedWorld (log : String) : World :=
  { settingsWorld log with files := (fetchedEnd log).world.files }

def ranEnd (log : String) : Ended := start ("run" :: configLine) (fetchedWorld log)

def settingsOf (log : String) : Config :=
  (load (settingsWorld log).files (some "c.yaml")).toOption.getD {}

theorem settingsWorld_loads {log : String}
    (isSome : (load (settingsWorld log).files (some "c.yaml")).toOption.isSome = true) :
    load (settingsWorld log).files (some "c.yaml") = .ok (settingsOf log) := by
  unfold settingsOf
  generalize load (settingsWorld log).files (some "c.yaml") = loaded at isSome
  cases loaded with
  | error fault => cases isSome
  | ok c => rfl

theorem fetch_run_logged :
    fetchGrammar.read configLine = .ok (.given configValues []) ∧
      configValues.text? "--config" = some "c.yaml" ∧
      (∀ c, load (settingsWorld "run.log").files (some "c.yaml") = .ok c →
        ∀ key ∈ logKey? c.logging.file, key ∉ modelKeys c .standard) ∧
      (fetchedEnd "run.log").exitCode = 0 ∧
      Plain "c.yaml" (settingsOf "run.log") configValues configLine ∧
      ∃ model, Says (settingsWorld "run.log") (model.text ++ "\n") (fetchedEnd "run.log").world ∧
        Hands model (fetchedWorld "run.log") (ranEnd "run.log") := by
  have reads : fetchGrammar.read configLine = .ok (.given configValues []) := by decide +kernel
  have runs : runGrammar.read configLine = .ok (.given configValues []) := by decide +kernel
  obtain ⟨isSome, own, unlogged, outside, source, exits⟩ :
      (load (settingsWorld "run.log").files (some "c.yaml")).toOption.isSome = true ∧
        (∀ key ∈ logKey? (settingsOf "run.log").logging.file,
          key ∉ modelKeys (settingsOf "run.log") .standard) ∧
        (Path.ofText "c.yaml").goal ∉ logKey? (settingsOf "run.log").logging.file ∧
        (Path.ofText "c.yaml").goal ∉ modelKeys (settingsOf "run.log") .standard ∧
        (settingsOf "run.log").camera.source = .index 0 ∧ (fetchedEnd "run.log").exitCode = 0 := by
    decide +kernel
  have only {c : Config} (loads : load (settingsWorld "run.log").files (some "c.yaml") = .ok c) :
      settingsOf "run.log" = c := Except.ok.inj ((settingsWorld_loads isSome).symm.trans loads)
  have apart : ∀ c, load (settingsWorld "run.log").files (some "c.yaml") = .ok c →
      ∀ key ∈ logKey? c.logging.file, key ∉ modelKeys c .standard := by
    intro c loads
    rw [← only loads]
    exact own
  have plain : Plain "c.yaml" (settingsOf "run.log") configValues configLine := by
    refine ⟨runs, rfl, .index 0, ?_⟩
    change (settingsOf "run.log").camera.source.normalize = _
    rw [source]
    rfl
  obtain ⟨c, model, loads, shown, kept, hands⟩ := (fetch_run reads rfl apart).1 exits
  rw [← only loads] at kept hands
  exact ⟨reads, rfl, apart, exits, plain, model, shown,
    hands (kept unlogged outside) configValues configLine (fetchedWorld "run.log") plain rfl rfl⟩

/-- Settings that are their own log are no settings any more once the command has logged to them.
The command shows where the model lies, and the run after it fails before it does anything. -/
theorem fetched_unloadable :
    (∀ key ∈ logKey? (settingsOf "c.yaml").logging.file,
        key ∉ modelKeys (settingsOf "c.yaml") .standard) ∧
      (fetchedEnd "c.yaml").exitCode = 0 ∧
      (fetchedEnd "c.yaml").world.console = logText
        [.log "INFO" Model.loggerName "Downloading classifier from m.xml",
          .log "INFO" Model.loggerName "Cached classifier at models/m.xml"] ++ "models/m.xml\n" ∧
      (ranEnd "c.yaml").exitCode = 1 ∧ (ranEnd "c.yaml").failure.isNone = false ∧
      (ranEnd "c.yaml").trace = [] := by
  have reads : runGrammar.read configLine = .ok (.given configValues []) := by decide +kernel
  obtain ⟨own, exits, shown, unloadable⟩ :
      (∀ key ∈ logKey? (settingsOf "c.yaml").logging.file,
        key ∉ modelKeys (settingsOf "c.yaml") .standard) ∧
      (fetchedEnd "c.yaml").exitCode = 0 ∧
      (fetchedEnd "c.yaml").world.console = logText
        [.log "INFO" Model.loggerName "Downloading classifier from m.xml",
          .log "INFO" Model.loggerName "Cached classifier at models/m.xml"] ++ "models/m.xml\n" ∧
      (load (fetchedWorld "c.yaml").files (some "c.yaml")).isOk = false := by
    decide +kernel
  have ran : ranEnd "c.yaml" = _ := start_plain reads rfl
  generalize load (fetchedWorld "c.yaml").files (some "c.yaml") = loaded at unloadable ran
  cases loaded with
  | ok c => cases unloadable
  | error fault =>
      rw [ran]
      exact ⟨own, exits, shown, rfl, rfl, rfl⟩

end HatReel.Command
