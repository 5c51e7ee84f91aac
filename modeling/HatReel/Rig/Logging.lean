import HatReel.Rig.World

/-!
Setting up logging: the level, the console and perhaps a file to which messages are added. Whatever
was set up before is replaced.
-/

namespace HatReel.Rig

open HatReel.Files HatReel.Log

def levelNumber (name : String) : Act World Int :=
  match meaning name with
  | .level n => pure n
  | .text s => .fail (.levelText s)
  | .other => .fail .levelKind
  | .nothing => .fail .unknownLevel

def setJournal (level : Int) (sinks : List Sink) : Act World Unit :=
  .modify fun w => { w with journal := ⟨level, sinks⟩ }

def openLog (p : Path) : Act World Key := fun w =>
  match w.files.openFile p.normalized with
  | .ok (key, content) => ⟨.ok key, { w with files := w.files.put key (.file content) }, []⟩
  | .error fault => ⟨.error (.file fault), w, []⟩

/-- Sets up logging at a level given by its number. An empty name means no file. -/
def setUpLoggingAt (level : Int) (file : Option String) : Act World Unit := do
  setJournal level [.console]
  match file with
  | none => pure ()
  | some name =>
    if name.isEmpty then pure ()
    else
      let path := Path.ofText name
      ensureDirectory path.parent
      let key ← openLog path
      setJournal level [.console, .file (some key)]

def setUpLogging (level : String) (file : Option String) : Act World Unit := do
  setUpLoggingAt (← levelNumber level) file

def logRuntime (logger : String) : Act World Unit := do
  let scripts := (← Act.get).scripts
  log .info logger "OpenCV <opencv>, numpy <numpy>"
  let backends := ", ".intercalate scripts.backends
  log .info logger ("Video backends: " ++ if backends.isEmpty then "none" else backends)
  log .debug logger scripts.buildInfo

end HatReel.Rig
