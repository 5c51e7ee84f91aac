import HatReel.Rig.Act

/-!
The world around a reel: scripts of the devices, files, and logging. The steps here are those that
more than one device takes.
-/

namespace HatReel.Rig

open HatReel.Files HatReel.Log

structure World where
  scripts : Scripts := {}
  files : Store := {}
  journal : Journal := ⟨10, [.events]⟩
  console : String := ""

def next {α : Type} (default : α) : List α → α × List α
  | [] => (default, [])
  | a :: rest => (a, rest)

namespace World

def writeLine (w : World) (line : String) : List Sink → World
  | [] => w
  | .events :: rest => w.writeLine line rest
  | .console :: rest => { w with console := w.console ++ line }.writeLine line rest
  | .file (some key) :: rest =>
    { w with files := w.files.append key (Text.utf8 line) }.writeLine line rest
  | .file none :: rest => w.writeLine line rest

end World

def logAt (n : Int) (logger message : String) : Act World Unit := fun w =>
  if isMember logger && w.journal.passes n then
    let w' := w.writeLine (line (levelName n) logger message) w.journal.sinks
    ⟨.ok (), w',
      if w.journal.sinks.contains .events then [.log (levelName n) logger message] else []⟩
  else ⟨.ok (), w, []⟩

def log (level : Level) (logger message : String) : Act World Unit :=
  logAt level.number logger message

def say (text : String) : Act World Unit :=
  .modify fun w => { w with console := w.console ++ text ++ "\n" }

def ensureDirectory (p : Path) : Act World Unit := fun w =>
  match w.files.ensureDirectory p with
  | (files, none) => ⟨.ok (), { w with files := files }, []⟩
  | (files, some fault) => ⟨.error (.file fault), { w with files := files }, []⟩

def changeFiles (f : Store → Except FileFault Store) : Act World Unit := fun w =>
  match f w.files with
  | .ok files => ⟨.ok (), { w with files := files }, []⟩
  | .error fault => ⟨.error (.file fault), w, []⟩

def askFiles {α : Type} (f : Store → Except FileFault α) : Act World α := fun w =>
  match f w.files with
  | .ok a => ⟨.ok a, w, []⟩
  | .error fault => ⟨.error (.file fault), w, []⟩

/-- Removes a file if it is there; a log that is being written to it goes nowhere from then on. -/
def unlink (p : Path) : Act World Unit := fun w =>
  match w.files.unlink p with
  | .ok (files, none) => ⟨.ok (), { w with files := files }, []⟩
  | .ok (files, some key) =>
    ⟨.ok (), { w with files := files, journal := w.journal.moveFile key none }, []⟩
  | .error fault => ⟨.error (.file fault), w, []⟩

def replace (p target : Path) : Act World Unit := fun w =>
  match w.files.replace p target with
  | .ok (files, old, new) =>
    let journal := (w.journal.moveFile new none).moveFile old (some new)
    ⟨.ok (), { w with files := files, journal := journal }, []⟩
  | .error fault => ⟨.error (.file fault), w, []⟩

/-- The next reading of the clock; the last one stays. -/
def readClock : Act World Float := fun w =>
  match w.scripts.clock with
  | [] => ⟨.ok 0.0, w, []⟩
  | [t] => ⟨.ok t, w, []⟩
  | t :: rest => ⟨.ok t, { w with scripts := { w.scripts with clock := rest } }, []⟩

end HatReel.Rig
