import HatReel.Files.Store
import HatReel.Text.Letter

/-!
The levels of messages, and where messages go. The loggers of one family share a level and a list of
sinks; a message below the level goes nowhere, every other goes to each sink once.
-/

namespace HatReel.Log

open HatReel.Files

inductive Level where
  | debug
  | info
  | warning
  | error
  deriving DecidableEq, Repr

def Level.all : List Level := [.debug, .info, .warning, .error]

def Level.name : Level → String
  | .debug => "DEBUG"
  | .info => "INFO"
  | .warning => "WARNING"
  | .error => "ERROR"

def Level.number : Level → Int
  | .debug => 10
  | .info => 20
  | .warning => 30
  | .error => 40

/-- The level of a name, which may be written in any case. -/
def Level.ofName? (name : String) : Option Level :=
  let capital := String.ofList (Text.upper name.toList)
  Level.all.find? fun l => l.name == capital

inductive Sink where
  /-- The list of events. -/
  | events
  | console
  /-- A file under its key; nothing once the file has no name any more. -/
  | file (key : Option Key)
  deriving DecidableEq, Repr

structure Journal where
  level : Int
  sinks : List Sink
  deriving DecidableEq, Repr

def levelName (n : Int) : String :=
  if n == 0 then "NOTSET"
  else if n == 50 then "CRITICAL"
  else
    match Level.all.find? fun l => l.number == n with
    | some l => l.name
    | none => s!"Level {n}"

def defaultThreshold : Int := 30

def Journal.passes (j : Journal) (n : Int) : Bool :=
  0 < n && (if j.level == 0 then defaultThreshold else j.level) ≤ n

def isMember (logger : String) : Bool := logger == "cvdemo" || logger.startsWith "cvdemo."

def padRight (width : Nat) (s : String) : String :=
  s ++ String.ofList (List.replicate (width - s.length) ' ')

def line (level logger message : String) : String :=
  "<time> | " ++ padRight 8 level ++ " | " ++ logger ++ " | " ++ message ++ "\n"

/-- The sinks after the file under a key has got another key, or lost its name. -/
def Journal.moveFile (j : Journal) (old : Key) (new : Option Key) : Journal :=
  { j with sinks := j.sinks.map fun s => if s == .file (some old) then .file new else s }

inductive Meaning where
  | level (n : Int)
  | text (s : String)
  | other
  | nothing
  deriving DecidableEq, Repr

def meanings : List (String × Meaning) := [
  ("CRITICAL", .level 50), ("FATAL", .level 50), ("ERROR", .level 40), ("WARNING", .level 30),
  ("WARN", .level 30), ("INFO", .level 20), ("DEBUG", .level 10), ("NOTSET", .level 0),
  ("BASIC_FORMAT", .text "%(levelname)s:%(name)s:%(message)s"), ("_STYLES", .other)]

def meaning (name : String) : Meaning :=
  let capital := String.ofList (Text.upper name.toList)
  match meanings.find? fun m => m.1 == capital with
  | some m => m.2
  | none => .nothing

end HatReel.Log
