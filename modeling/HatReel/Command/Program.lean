import HatReel.Command.Line
import HatReel.Reel.Demo
import HatReel.Rig.Logging
import HatReel.Settings.File

/-!
The commands of the program. The settings come from a file, and options on the command line go
before them. A run that fails in a foreseen way says so and ends with one; other failures are passed
on.
-/

namespace HatReel.Command

open HatReel.Log HatReel.Rig HatReel.Settings

def loggerName : String := "cvdemo.cli"

def versionText : String := "1.0.0"

inductive Failure where
  | settings (fault : LoadFault)
  | step (fault : Fault)

structure Ended where
  exitCode : Nat
  failure : Option Failure := none
  world : World
  trace : List Event := []

def showing (exitCode : Nat) (text : String) (w : World) : Ended :=
  { exitCode, world := { w with console := w.console ++ text } }

def ending (x : Act World Nat) (w : World) : Ended :=
  match x w with
  | ⟨.ok exitCode, world, trace⟩ => { exitCode, world, trace }
  | ⟨.error fault, world, trace⟩ => { exitCode := 1, failure := some (.step fault), world, trace }

abbrev Values := List (String × Given)

def Values.text? (v : Values) (name : String) : Option String :=
  match v.lookup name with
  | some (.text s) => some s
  | _ => none

def Values.whole? (v : Values) (name : String) : Option Int :=
  match v.lookup name with
  | some (.whole n) => some n
  | _ => none

def Values.has (v : Values) (name : String) : Bool := (v.lookup name).isSome

def Values.apply (v : Values) (c : Config) : Config where
  camera := { c.camera with source := ((v.text? "--source").map .name).getD c.camera.source }
  classifier := c.classifier
  contours := c.contours
  warp := { c.warp with seed := (v.whole? "--seed").or c.warp.seed }
  recorder := { c.recorder with path := (v.text? "--output").getD c.recorder.path }
  display := { c.display with enabled := c.display.enabled && !v.has "--headless" }
  run := { c.run with maxFrames := (v.whole? "--max-frames").or c.run.maxFrames }
  logging :=
    { c.logging with level := ((v.text? "--log-level").bind Level.ofName?).getD c.logging.level }

/-- Ends with a foreseen fault in the program's own words; others stay faults. -/
def report (fault : Fault) : Act World Nat := do
  if fault.isForeseen then
    say s!"Error: {fault.message}"
    return 1
  else .fail fault

def logFault (fault : Fault) : Act World Unit :=
  if fault.isForeseen then log .error loggerName fault.message else pure ()

def setUp (c : Config) : Act World Unit :=
  setUpLoggingAt c.logging.level.number c.logging.file

def record (c : Config) (model : Option String) : Act World Nat := do
  setUp c
  logRuntime loggerName
  let reel : Act World Reel.Stats := do
    let demo ← Act.ofExcept id (Reel.Demo.make c model none)
    .withState demo Reel.run
  .recover
    (do
      let stats ← reel
      say s!"✅ Recorded {stats.frames} frames to {stats.output.text}"
      return 0)
    fun fault => do
      logFault fault
      report fault

def fetch (c : Config) : Act World Nat := do
  setUp c
  let m := c.classifier
  .recover
    (do
      let path ← Model.resolve none m.cacheDir m.url (.real m.timeout)
      say path.text
      return 0)
    report

/-- The settings at a glance. The versions of what the program runs on are not told. -/
def overview (c : Config) : List String :=
  let m := c.classifier
  let source :=
    match c.camera.source with
    | .index n => toString n
    | .name s => s
  let real (x : Float) : String := Decimal.shortestText x
  [ "📷 cvdemo Configuration",
    String.ofList (List.replicate 40 '='),
    s!"Version: {versionText}",
    "OpenCV: <opencv>",
    "Python: <masked>",
    "Platform: <masked>",
    "",
    "Capture:",
    s!"  Source: {source}",
    s!"  Gamma: {real c.camera.gamma}",
    "",
    "Classifier:",
    s!"  URL: {m.url}",
    s!"  Cache: {m.cacheDir}",
    s!"  Scale Factor: {real m.scaleFactor}",
    s!"  Min Neighbors: {m.minNeighbors}",
    "",
    "Output:",
    s!"  Video: {c.recorder.path} ({c.recorder.fourcc} @ {real c.recorder.fps} FPS)",
    "  Window: " ++ if c.display.enabled then c.display.title else "disabled" ]

def showOverview (c : Config) : Act World Nat := do
  (overview c).forM say
  return 0

def withConfig (v : Values) (f : Config → Act World Nat) (w : World) : Ended :=
  match load w.files (v.text? "--config") with
  | .error fault => { exitCode := 1, failure := some (.settings fault), world := w }
  | .ok c => ending (f c) w

def onLine (g : Grammar) (line : List String) (f : Values → List String → World → Ended)
    (w : World) : Ended :=
  match g.read line with
  | .error fault => showing 2 (fault.report g) w
  | .ok .help => showing 0 g.helpText w
  | .ok .version => showing 0 s!"{g.path}, version {versionText}\n" w
  | .ok (.given values others) => f values others w

def command? (name : String) : Option (List String → World → Ended) :=
  match name with
  | "run" => some fun line =>
    onLine runGrammar line fun v others => withConfig v fun c => record (v.apply c) others.head?
  | "fetch-model" => some fun line => onLine fetchGrammar line fun v _ => withConfig v fetch
  | "info" => some fun line => onLine infoGrammar line fun v _ => withConfig v showOverview
  | _ => none

/-- A word that is no command. One behind two dashes that looks like an option is read as one
first. -/
def noCommand (name : String) (rest : List String) (w : World) : Ended :=
  let refused (w : World) : Ended :=
    let close := Text.closeTexts name (programGrammar.commands.map (·.1))
    showing 2 ((UsageFault.noCommand name close).report programGrammar) w
  if name.startsWith "-" then onLine programGrammar (name :: rest) (fun _ _ => refused) w
  else refused w

def start (line : List String) (w : World) : Ended :=
  if line.isEmpty then showing 2 programGrammar.helpText w
  else
    onLine programGrammar line (fun _ others w =>
      match others with
      | [] => showing 2 (UsageFault.commandMissing.report programGrammar) w
      | name :: rest =>
        match command? name with
        | some f => f rest w
        | none => noCommand name rest w) w

end HatReel.Command
