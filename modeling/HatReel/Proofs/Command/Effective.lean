import HatReel.Proofs.Command.Closing
import HatReel.Proofs.Command.Spelling
import Mathlib.Data.List.Induction

/-! The settings that a run is made with.

They are those of the file, with each option of the command line put in its place, one after the
other. So of an option that is repeated the last one counts, and options of different kinds may be
exchanged. -/

namespace HatReel.Command

open HatReel.Decimal HatReel.Log HatReel.Rig HatReel.Settings HatReel.Text

def sourceSwitch : Switch := ⟨"--source", some 's', .text, "Camera index or video file"⟩

def outputSwitch : Switch := ⟨"--output", some 'o', .text, "Output video path"⟩

def maxFramesSwitch : Switch :=
  ⟨"--max-frames", none, .wholeFrom 1, "Stop after this many frames"⟩

def headlessSwitch : Switch := ⟨"--headless", none, .flag, "Do not open a preview window"⟩

def seedSwitch : Switch := ⟨"--seed", none, .whole, "Seed for the random warp"⟩

def levelSwitch : Switch := ⟨"--log-level", none, .choice levelWords, "Logging verbosity"⟩

theorem runGrammar_switches : runGrammar.switches = [configSwitch, sourceSwitch, outputSwitch,
    maxFramesSwitch, headlessSwitch, seedSwitch, levelSwitch, helpSwitch] := rfl

theorem runGrammar_plain : runGrammar.IsPlain := by
  refine ⟨rfl, ?_, ?_, ?_⟩
  · decide
  · decide
  · rw [runGrammar_switches]
    simp only [List.forall_mem_cons]
    refine ⟨?_, ?_, ?_, ?_, ?_, ?_, ?_, ?_, by simp⟩ <;> rintro c ⟨⟩ <;> decide

inductive Setting where
  | config (path : String)
  | source (name : String)
  | output (path : String)
  | maxFrames (n : Int)
  | headless
  | seed (n : Int)
  | level (l : Level)

namespace Setting

def switch : Setting → Switch
  | .config _ => configSwitch
  | .source _ => sourceSwitch
  | .output _ => outputSwitch
  | .maxFrames _ => maxFramesSwitch
  | .headless => headlessSwitch
  | .seed _ => seedSwitch
  | .level _ => levelSwitch

def levelWord : Level → String
  | .debug => "debug"
  | .info => "info"
  | .warning => "warning"
  | .error => "error"

/-- What is written on a command line to set it: any whole number in any spelling, and the name of a
level in small and capital letters. -/
inductive Written : Setting → Option String → Prop where
  | config (path : String) : Written (.config path) (some path)
  | source (name : String) : Written (.source name) (some name)
  | output (path : String) : Written (.output path) (some path)
  | maxFrames (n : Int) (text : String) (reads : readInteger 10 text.toList = .ok n)
      (positive : 1 ≤ n) : Written (.maxFrames n) (some text)
  | headless : Written .headless none
  | seed (n : Int) (text : String) (reads : readInteger 10 text.toList = .ok n) :
      Written (.seed n) (some text)
  | level (l : Level) (text : String) (reads : fold text.toList = (levelWord l).toList) :
      Written (.level l) (some text)

def override : Setting → Config → Config
  | .config _, c => c
  | .source name, c => { c with camera := { c.camera with source := .name name } }
  | .output path, c => { c with recorder := { c.recorder with path := path } }
  | .maxFrames n, c => { c with run := { c.run with maxFrames := some n } }
  | .headless, c => { c with display := { c.display with enabled := false } }
  | .seed n, c => { c with warp := { c.warp with seed := some n } }
  | .level l, c => { c with logging := { c.logging with level := l } }

def value : Setting → Given
  | .config path => .text path
  | .source name => .text name
  | .output path => .text path
  | .maxFrames n => .whole n
  | .headless => .present
  | .seed n => .whole n
  | .level l => .text (levelWord l)

def config? : Setting → Option String
  | .config path => some path
  | _ => none

theorem switch_mem (t : Setting) : t.switch ∈ runGrammar.switches := by
  rw [runGrammar_switches]
  cases t <;> simp [switch]

theorem switch_calm (t : Setting) : t.switch.kind.isUrgent = false := by
  cases t <;> rfl

theorem Written.reads {t : Setting} {raw : Option String} (written : t.Written raw) :
    t.switch.read raw = .ok t.value := by
  cases written with
  | config path => rfl
  | source name => rfl
  | output path => rfl
  | headless => rfl
  | maxFrames n text reads positive =>
      simp only [switch, maxFramesSwitch, Switch.read, reads, if_neg (Int.not_lt.mpr positive)]
      rfl
  | seed n text reads =>
      simp only [switch, seedSwitch, Switch.read, reads]
      rfl
  | level l text reads =>
      simp only [switch, levelSwitch, Switch.read, reads, String.ofList_toList]
      cases l <;> rfl

end Setting

def valuesOf (ts : List Setting) : Values := (ts.map fun t => (t.switch.name, t.value)).reverse

theorem valuesOf_concat (ts : List Setting) (t : Setting) :
    valuesOf (ts ++ [t]) = (t.switch.name, t.value) :: valuesOf ts := by
  simp [valuesOf]

theorem ofName?_levelWord (l : Level) : Level.ofName? (Setting.levelWord l) = some l := by
  cases l <;> decide

theorem apply_cons (t : Setting) (v : Values) (c : Config) :
    Values.apply ((t.switch.name, t.value) :: v) c = t.override (v.apply c) := by
  cases t <;>
    simp [Values.apply, Values.text?, Values.whole?, Values.has, List.lookup_cons, Setting.switch,
      Setting.value, Setting.override, configSwitch, sourceSwitch, outputSwitch, maxFramesSwitch,
      headlessSwitch, seedSwitch, levelSwitch, ofName?_levelWord]

/-- Only the values of the options of a run count. -/
theorem apply_same {v v' : Values}
    (same : ∀ s ∈ runGrammar.switches, v.lookup s.name = v'.lookup s.name) (c : Config) :
    v.apply c = v'.apply c ∧ v.text? "--config" = v'.text? "--config" := by
  have config : v.lookup "--config" = v'.lookup "--config" := same configSwitch (by decide)
  have source : v.lookup "--source" = v'.lookup "--source" := same sourceSwitch (by decide)
  have output : v.lookup "--output" = v'.lookup "--output" := same outputSwitch (by decide)
  have maxFrames : v.lookup "--max-frames" = v'.lookup "--max-frames" :=
    same maxFramesSwitch (by decide)
  have headless : v.lookup "--headless" = v'.lookup "--headless" := same headlessSwitch (by decide)
  have seed : v.lookup "--seed" = v'.lookup "--seed" := same seedSwitch (by decide)
  have level : v.lookup "--log-level" = v'.lookup "--log-level" := same levelSwitch (by decide)
  constructor
  · simp only [Values.apply, Values.text?, Values.whole?, Values.has, source, output, maxFrames,
      headless, seed, level]
  · simp only [Values.text?, config]

def effective (ts : List Setting) (c : Config) : Config := ts.foldl (fun c t => t.override c) c

def configPath (ts : List Setting) : Option String := (ts.filterMap Setting.config?).getLast?

theorem apply_valuesOf (ts : List Setting) (c : Config) :
    (valuesOf ts).apply c = effective ts c := by
  induction ts using List.reverseRecOn with
  | nil => simp [Values.apply, Values.text?, Values.whole?, Values.has, valuesOf, effective]
  | append_singleton ts t ih =>
      rw [valuesOf_concat, apply_cons, ih, effective, effective, List.foldl_append]
      rfl

theorem config_valuesOf (ts : List Setting) : (valuesOf ts).text? "--config" = configPath ts := by
  induction ts using List.reverseRecOn with
  | nil => rfl
  | append_singleton ts t ih =>
      rw [valuesOf_concat, configPath, List.filterMap_append]
      have skips (other : ("--config" == t.switch.name) = false) (no : t.config? = none) :
          Values.text? ((t.switch.name, t.value) :: valuesOf ts) "--config" =
            (ts.filterMap Setting.config? ++ [t].filterMap Setting.config?).getLast? := by
        rw [List.filterMap_cons_none no, List.filterMap_nil, List.append_nil]
        unfold Values.text?
        rw [List.lookup_cons, other]
        exact ih
      cases t with
      | config path =>
          simp [Values.text?, Setting.switch, Setting.value, Setting.config?, configSwitch]
      | _ => exact skips rfl rfl

theorem switch_of_name {s t : Switch} (inside : s ∈ runGrammar.switches)
    (insideToo : t ∈ runGrammar.switches) (names : s.name = t.name) : s = t := by
  have one := runGrammar_plain.named s inside
  rw [names, runGrammar_plain.named t insideToo] at one
  exact (Option.some.inj one).symm

/-- The value of an option depends on how often it is given only. -/
theorem lookup_valuesOf (ts : List Setting) {s : Switch} (inside : s ∈ runGrammar.switches) :
    (valuesOf ts).lookup s.name = (valuesOf (ts.filter fun t => t.switch == s)).lookup s.name := by
  induction ts using List.reverseRecOn with
  | nil => rfl
  | append_singleton ts t ih =>
      rw [List.filter_append, valuesOf_concat]
      by_cases same : t.switch = s
      · have here : [t].filter (fun t => t.switch == s) = [t] := by simp [same]
        rw [here, valuesOf_concat, same, List.lookup_cons_self, List.lookup_cons_self]
      · have names : (s.name == t.switch.name) = false := by
          rw [beq_eq_false_iff_ne]
          exact fun equal => same (switch_of_name inside t.switch_mem equal).symm
        have elsewhere : [t].filter (fun t => t.switch == s) = [] := by simp [same]
        rw [elsewhere, List.append_nil, List.lookup_cons, names]
        exact ih

inductive Part where
  | setting (t : Setting)
  | model (path : String)

namespace Part

def setting? : Part → Option Setting
  | .setting t => some t
  | .model _ => none

def model? : Part → Option String
  | .setting _ => none
  | .model path => some path

def slot : Part → Option Switch
  | .setting t => some t.switch
  | .model _ => none

end Part

inductive Means : Item → Part → Prop where
  | setting {t : Setting} {raw : Option String} (written : t.Written raw) :
      Means (.option t.switch raw) (.setting t)
  | model (path : String) : Means (.word path) (.model path)

def Asks (line : List String) (parts : List Part) : Prop :=
  ∃ items, Spelled runGrammar line items ∧ List.Forall₂ Means items parts

def settings (parts : List Part) : List Setting := parts.filterMap Part.setting?

def models (parts : List Part) : List String := parts.filterMap Part.model?

theorem word_means {items : List Item} {parts : List Part}
    (means : List.Forall₂ Means items parts) :
    items.filterMap Item.word? = models parts := by
  induction means with
  | nil => rfl
  | cons first _ ih =>
      cases first with
      | setting written => exact ih
      | model path => exact congrArg (path :: ·) ih

theorem option_means {items : List Item} {parts : List Part}
    (means : List.Forall₂ Means items parts) :
    List.Forall₂ (fun e t => e.1 = t.switch ∧ t.Written e.2) (items.filterMap Item.option?)
      (settings parts) := by
  induction means with
  | nil => exact .nil
  | cons first _ ih =>
      cases first with
      | setting written => exact .cons ⟨rfl, written⟩ ih
      | model path => exact ih

theorem lastGiven_means {options : List (Switch × Option String)} {ts : List Setting}
    (means : List.Forall₂ (fun e t => e.1 = t.switch ∧ t.Written e.2) options ts) {s : Switch}
    (inside : s ∈ runGrammar.switches) :
    ((lastGiven options s).bind fun raw => (s.read raw).toOption) =
      (valuesOf ts).lookup s.name := by
  have backwards := List.rel_reverse means
  unfold lastGiven valuesOf
  rw [List.getLast?_filter, ← List.map_reverse]
  generalize options.reverse = options at backwards
  generalize ts.reverse = ts at backwards
  induction backwards with
  | nil => rfl
  | @cons e t options ts first _ ih =>
      obtain ⟨switch, raw⟩ := e
      obtain ⟨rfl, written⟩ := first
      rw [List.map_cons]
      by_cases same : t.switch = s
      · subst same
        have here : ((t.switch, raw) :: options).find? (fun e => e.1 == t.switch) =
            some (t.switch, raw) := by simp
        rw [here, List.lookup_cons_self]
        change (t.switch.read raw).toOption = _
        rw [written.reads]
        rfl
      · have names : (s.name == t.switch.name) = false := by
          rw [beq_eq_false_iff_ne]
          exact fun equal => same (switch_of_name inside t.switch_mem equal).symm
        have past : ((t.switch, raw) :: options).find? (fun e => e.1 == s) =
            options.find? fun e => e.1 == s := by simp [same]
        rw [past, List.lookup_cons, names]
        exact ih

/-- A command line of a run is understood as it is meant. -/
theorem read_asked {line : List String} {parts : List Part} (asks : Asks line parts)
    (few : (models parts).length ≤ 1) :
    ∃ values : Values, runGrammar.read line = .ok (.given values (models parts)) ∧
      (∀ c, values.apply c = effective (settings parts) c) ∧
      values.text? "--config" = configPath (settings parts) := by
  obtain ⟨items, spelled, means⟩ := asks
  have options := option_means means
  have each : ∀ e ∈ items.filterMap Item.option?,
      ∃ t : Setting, e.1 = t.switch ∧ t.Written e.2 := by
    revert options
    generalize items.filterMap Item.option? = given
    generalize settings parts = ts
    intro options
    induction options with
    | nil => simp
    | cons first _ ih =>
        intro e member
        rcases List.mem_cons.mp member with rfl | later
        · exact ⟨_, first⟩
        · exact ih e later
  rw [← word_means means] at few ⊢
  have calm : ∀ e ∈ items.filterMap Item.option?, e.1.kind.isUrgent = false := by
    intro e member
    obtain ⟨t, isSwitch, -⟩ := each e member
    rw [isSwitch]
    exact t.switch_calm
  have sound : ∀ e ∈ items.filterMap Item.option?, ∃ value, e.1.read e.2 = .ok value := by
    intro e member
    obtain ⟨t, isSwitch, written⟩ := each e member
    rw [isSwitch]
    exact ⟨t.value, written.reads⟩
  obtain ⟨values, reads, found⟩ := read_spelled runGrammar_plain rfl spelled calm sound few
  have same : ∀ s ∈ runGrammar.switches,
      values.lookup s.name = (valuesOf (settings parts)).lookup s.name := by
    intro s inside
    rw [found s inside, lastGiven_means options inside]
  refine ⟨values, reads, fun c => ?_, ?_⟩
  · rw [(apply_same same c).1, apply_valuesOf]
  · rw [(apply_same same {}).2, config_valuesOf]

theorem start_run (line : List String) (w : World) :
    start ("run" :: line) w = onLine runGrammar line (fun v others =>
      withConfig v fun c => record (v.apply c) others.head?) w := rfl

theorem start_asked {line : List String} {parts : List Part} (asks : Asks line parts)
    (few : (models parts).length ≤ 1) (w : World) :
    start ("run" :: line) w =
      match load w.files (configPath (settings parts)) with
      | .error fault => { exitCode := 1, failure := some (.settings fault), world := w }
      | .ok c => ending (record (effective (settings parts) c) (models parts).head?) w := by
  obtain ⟨values, reads, applies, path⟩ := read_asked asks few
  rw [start_run]
  cases loaded : load w.files (configPath (settings parts)) with
  | error fault => simp only [onLine, reads, withConfig, path, loaded]
  | ok c => simp only [onLine, reads, withConfig, path, loaded, applies]

/-- Two command lines ask for the same if each option has the same values in the same order, and so
have the models. -/
def SameAsked (parts parts' : List Part) : Prop :=
  ∀ slot, parts'.filter (·.slot == slot) = parts.filter (·.slot == slot)

section

variable {parts parts' : List Part} (same : SameAsked parts parts')

include same

theorem models_same : models parts' = models parts := by
  have only (l : List Part) : models l = models (l.filter (·.slot == none)) := by
    unfold models
    induction l with
    | nil => rfl
    | cons part l ih =>
        cases part with
        | setting t => exact ih
        | model path => exact congrArg (path :: ·) ih
  rw [only parts', same none, ← only]

theorem values_same : ∀ s ∈ runGrammar.switches,
    (valuesOf (settings parts')).lookup s.name = (valuesOf (settings parts)).lookup s.name := by
  intro s inside
  have only (l : List Part) : (settings l).filter (fun t => t.switch == s) =
      settings (l.filter (·.slot == some s)) := by
    unfold settings
    induction l with
    | nil => rfl
    | cons part l ih =>
        cases part with
        | setting t =>
            by_cases isSwitch : t.switch = s <;> simpa [Part.setting?, Part.slot, isSwitch] using ih
        | model path => exact ih
  rw [lookup_valuesOf _ inside, lookup_valuesOf (settings parts) inside, only, only, same]

end

/-- A reel is made and run with the settings that are loaded and the options in their places, the
last one of each kind, and with the model that is named; the program ends as the reel does. How the
options are spelled, and in which order those of different kinds stand, makes no difference. -/
theorem start_effective {line : List String} {parts : List Part} {w : World} {c : Config}
    (asks : Asks line parts) (few : (models parts).length ≤ 1)
    (loads : load w.files (configPath (settings parts)) = .ok c) :
    RunsReel (effective (settings parts) c) (models parts).head? w (start ("run" :: line) w) ∧
      ∀ line' parts', Asks line' parts' → SameAsked parts parts' →
        start ("run" :: line') w = start ("run" :: line) w := by
  have started := start_asked asks few w
  constructor
  · rw [started, loads]
    exact record_runs _ _ w
  · intro line' parts' asks' same
    have one := models_same same
    have settings_same (c : Config) :
        effective (settings parts') c = effective (settings parts) c ∧
          configPath (settings parts') = configPath (settings parts) := by
      have equal := apply_same (values_same same) c
      rwa [apply_valuesOf, apply_valuesOf, config_valuesOf, config_valuesOf] at equal
    rw [started, start_asked asks' (by rw [one]; exact few) w, (settings_same c).2, loads, one]
    simp only [(settings_same c).1]

def mixedLine : List String := ["-s0", "m.xml", "--seed=0", "--headless", "--source", "b.avi"]

def mixedParts : List Part :=
  [.setting (.source "0"), .model "m.xml", .setting (.seed 0), .setting .headless,
    .setting (.source "b.avi")]

theorem mixed_asks : Asks mixedLine mixedParts := by
  refine ⟨[.option sourceSwitch (some "0"), .word "m.xml", .option seedSwitch (some "0"),
    .option headlessSwitch none, .option sourceSwitch (some "b.avi")], ?_, ?_⟩
  · have attached : Spells runGrammar sourceSwitch ["-s0"] (some "0") :=
      .attached rfl 's' rfl "0" (by decide)
    have joined : Spells runGrammar seedSwitch ["--seed=0"] (some "0") := .joined rfl "0"
    have flag : Spells runGrammar headlessSwitch ["--headless"] none := .flag rfl
    have spaced : Spells runGrammar sourceSwitch ["--source", "b.avi"] (some "b.avi") :=
      .spaced rfl "b.avi"
    change Spelled runGrammar (["-s0"] ++ ("m.xml" :: (["--seed=0"] ++ (["--headless"] ++
      (["--source", "b.avi"] ++ []))))) _
    apply Spelled.option (by decide) attached
    apply Spelled.word (by decide)
    apply Spelled.option (by decide) joined
    apply Spelled.option (by decide) flag
    apply Spelled.option (by decide) spaced
    exact .nil
  · exact .cons (.setting (.source _)) (.cons (.model _) (.cons (.setting (.seed 0 "0" rfl))
      (.cons (.setting .headless) (.cons (.setting (.source _)) .nil))))

open HatReel.Reel

def mixedConfig : Config :=
  { camera := { source := .name "b.avi" }, warp := { seed := some 0 },
    display := { enabled := false } }

def outline (r : Ran (Demo × World) Stats) : Option Nat × List Camera.Source × Nat × Bool :=
  (r.answer.toOption.map Stats.frames,
    r.trace.filterMap fun
      | .captureOpen source => some source
      | _ => none,
    (writes r.trace).length, shows r.trace)

/-- The reel runs on the source that comes last, with the seed zero and without a window, and
records the two pictures behind the first one. -/
theorem start_effective_mixed :
    Asks mixedLine mixedParts ∧ (models mixedParts).length ≤ 1 ∧
      load (blackWorld 3).files (configPath (settings mixedParts)) = .ok {} ∧
      ∃ ready w₁ demo ran t,
        setUp mixedConfig (blackWorld 3) = ⟨.ok (), ready, []⟩ ∧
        logRuntime loggerName ready = ⟨.ok (), w₁, t⟩ ∧
        Demo.make mixedConfig (some "m.xml") none = .ok demo ∧ run (demo, w₁) = ran ∧
        outline ran = (some 2, [.name "b.avi"], 2, false) ∧
        (start ("run" :: mixedLine) (blackWorld 3)).exitCode = 0 ∧
        (start ("run" :: mixedLine) (blackWorld 3)).trace = t ++ ran.trace := by
  have loads : load (blackWorld 3).files (configPath (settings mixedParts)) = .ok {} := rfl
  have runs := (start_effective mixed_asks (by decide) loads).1
  change RunsReel mixedConfig (some "m.xml") _ _ at runs
  have works : (setUp mixedConfig (blackWorld 3)).answer.isOk = true := by decide +kernel
  have outlined : (Demo.make mixedConfig (some "m.xml") none).toOption.map (fun demo => outline
      (run (demo, (logRuntime loggerName (setUp mixedConfig (blackWorld 3)).state).state))) =
        some (some 2, [.name "b.avi"], 2, false) := by decide +kernel
  generalize start ("run" :: mixedLine) (blackWorld 3) = ended at runs
  cases runs with
  | unlogged sets =>
      rw [sets] at works
      cases works
  | unmade _ _ unmade =>
      rw [unmade] at outlined
      cases outlined
  | @ran ready w₁ w₂ demo demo' answer t₁ t₂ sets tells made ran =>
      rw [sets, tells, made] at outlined
      have isOutline : outline (run (demo, w₁)) = (some 2, [.name "b.avi"], 2, false) :=
        Option.some.inj outlined
      rw [ran] at isOutline
      cases answer with
      | error fault => cases isOutline
      | ok stats =>
          exact ⟨mixed_asks, by decide, loads, ready, w₁, demo, _, t₁, sets, tells, made, ran,
            isOutline, rfl, List.append_nil _⟩

end HatReel.Command
