import HatReel.Command.Grammar
import HatReel.Text.Quoted

/-!
Texts about the command line: its usage, its help, and what is wrong with it.
-/

namespace HatReel.Command

open HatReel.Text

def rangeText (low : Int) : String := s!"x>={low}"

def Kind.label : Kind → String
  | .text => " TEXT"
  | .whole => " INTEGER"
  | .wholeFrom _ => " INTEGER RANGE"
  | .choice words => " [" ++ "|".intercalate words ++ "]"
  | .flag | .help | .version => ""

def Switch.row (s : Switch) : String × String :=
  let letter :=
    match s.letter with
    | some c => "-" ++ c.toString ++ ", "
    | none => ""
  let range :=
    match s.kind with
    | .wholeFrom low => s!"  [{rangeText low}]"
    | _ => ""
  (letter ++ s.name ++ s.kind.label, s.help ++ range)

def gap (n : Nat) : String := String.ofList (List.replicate n ' ')

def columnLimit : Nat := 30

def table (title : String) (rows : List (String × String)) : String :=
  let width := min columnLimit ((rows.map fun r => r.1.length).foldl max 0)
  let line (r : String × String) : String :=
    let between :=
      if r.1.length ≤ width then gap (width + 2 - r.1.length) else "\n" ++ gap (width + 4)
    "  " ++ r.1 ++ between ++ r.2 ++ "\n"
  "\n" ++ title ++ ":\n" ++ String.join (rows.map line)

namespace Grammar

def usage (g : Grammar) : String :=
  let words :=
    if g.commands.isEmpty then
      match g.argument with
      | some name => s!" [{name}]"
      | none => ""
    else " COMMAND [ARGS]..."
  s!"Usage: {g.path} [OPTIONS]" ++ words ++ "\n"

def helpText (g : Grammar) : String :=
  g.usage ++ "\n  " ++ g.help ++ "\n" ++ table "Options" (g.switches.map Switch.row) ++
    if g.commands.isEmpty then "" else table "Commands" g.commands

end Grammar

inductive UsageFault where
  | noSwitch (name : String) (close : List String)
  | noCommand (name : String) (close : List String)
  | noValue (name : String)
  | surplusValue (name : String)
  | notWhole (name value : String)
  | notInRange (name value : String)
  | tooSmall (name : String) (n low : Int)
  | notChoice (name value : String) (words : List String)
  | surplusWords (words : List String)
  | commandMissing
  deriving DecidableEq, Repr

def suggestion (close : List String) : String :=
  match close with
  | [] => ""
  | [one] => s!" Did you mean {quoted one}?"
  | several => " (Did you mean one of: " ++ ", ".intercalate (several.map quoted) ++ "?)"

def invalidValue (name reason : String) : String := s!"Invalid value for '{name}': {reason}"

def UsageFault.message : UsageFault → String
  | .noSwitch name close => s!"No such option {quoted name}." ++ suggestion close
  | .noCommand name close => s!"No such command {quoted name}." ++ suggestion close
  | .noValue name => s!"Option {quoted name} requires an argument."
  | .surplusValue name => s!"Option {quoted name} does not take a value."
  | .notWhole name value => invalidValue name s!"{quoted value} is not a valid integer."
  | .notInRange name value => invalidValue name s!"{quoted value} is not a valid integer range."
  | .tooSmall name n low => invalidValue name s!"{n} is not in the range {rangeText low}."
  | .notChoice name value words =>
    invalidValue name
      (s!"{quoted value} is not one of " ++ ", ".intercalate (words.map quoted) ++ ".")
  | .surplusWords words =>
    "Got unexpected extra argument" ++ (if words.length == 1 then "" else "s") ++ " (" ++
      " ".intercalate words ++ ")"
  | .commandMissing => "Missing command."

def UsageFault.showsUsage : UsageFault → Bool
  | .noValue _ | .surplusValue _ => false
  | _ => true

def UsageFault.report (fault : UsageFault) (g : Grammar) : String :=
  (if fault.showsUsage then g.usage ++ s!"Try '{g.path} --help' for help.\n\n" else "") ++
    "Error: " ++ fault.message ++ "\n"

end HatReel.Command
