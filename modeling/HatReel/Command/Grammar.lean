/-!
What a command line may hold: commands, their options, and what an option takes.
-/

namespace HatReel.Command

/-- What an option takes. Words of a choice are in small letters and may be given in any case. -/
inductive Kind where
  | flag
  | text
  | whole
  | wholeFrom (low : Int)
  | choice (words : List String)
  /-- Shows the help, and nothing else is done. -/
  | help
  /-- Shows the version, and nothing else is done. -/
  | version
  deriving DecidableEq, Repr

def Kind.takesValue : Kind → Bool
  | .flag | .help | .version => false
  | _ => true

/-- Options that show something are looked at before all others. -/
def Kind.isUrgent : Kind → Bool
  | .help | .version => true
  | _ => false

structure Switch where
  name : String
  letter : Option Char := none
  kind : Kind
  help : String
  deriving DecidableEq, Repr

structure Grammar where
  /-- The words that lead to the command. -/
  path : String
  help : String
  switches : List Switch
  /-- The name of the argument, which may be left out. -/
  argument : Option String := none
  /-- Commands below this one, with a line of help for each. -/
  commands : List (String × String) := []
  deriving DecidableEq, Repr

namespace Grammar

/-- Whether options may stand between and behind other words. -/
def isFree (g : Grammar) : Bool := g.commands.isEmpty

def switch? (g : Grammar) (name : String) : Option Switch :=
  g.switches.find? fun s => s.name == name

def letter? (g : Grammar) (c : Char) : Option Switch := g.switches.find? fun s => s.letter == some c

end Grammar

def helpSwitch : Switch := ⟨"--help", none, .help, "Show this message and exit."⟩

def configSwitch : Switch := ⟨"--config", some 'f', .text, "Path to config file"⟩

def runHelp : String := "Run the demo loop."

def fetchHelp : String := "Download the default face cascade into the cache."

def infoHelp : String := "Show configuration and system information."

def levelWords : List String := ["debug", "info", "warning", "error"]

def programName : String := "cvdemo"

def programGrammar : Grammar where
  path := programName
  help := "cvdemo - OpenCV face detection, contours and warp demo."
  switches := [⟨"--version", none, .version, "Show the version and exit."⟩, helpSwitch]
  commands := [("fetch-model", fetchHelp), ("info", infoHelp), ("run", runHelp)]

def runGrammar : Grammar where
  path := programName ++ " run"
  help := runHelp ++ " CLASSIFIER is an optional cascade model file."
  switches := [
    configSwitch,
    ⟨"--source", some 's', .text, "Camera index or video file"⟩,
    ⟨"--output", some 'o', .text, "Output video path"⟩,
    ⟨"--max-frames", none, .wholeFrom 1, "Stop after this many frames"⟩,
    ⟨"--headless", none, .flag, "Do not open a preview window"⟩,
    ⟨"--seed", none, .whole, "Seed for the random warp"⟩,
    ⟨"--log-level", none, .choice levelWords, "Logging verbosity"⟩,
    helpSwitch]
  argument := some "CLASSIFIER"

def fetchGrammar : Grammar where
  path := programName ++ " fetch-model"
  help := fetchHelp
  switches := [configSwitch, helpSwitch]

def infoGrammar : Grammar where
  path := programName ++ " info"
  help := infoHelp
  switches := [configSwitch, helpSwitch]

end HatReel.Command
