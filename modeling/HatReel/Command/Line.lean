import HatReel.Command.Usage
import HatReel.Decimal.Integer
import HatReel.Text.Letter
import HatReel.Text.Similar

/-!
Command lines as options and other words. An option that takes a value takes it from its own word,
behind an equals sign or a letter, or else the next word whatever it says. Two dashes end the
options. Of an option that is given several times the last value counts.
-/

namespace HatReel.Command

open HatReel.Decimal HatReel.Text

inductive Given where
  | present
  | text (s : String)
  | whole (n : Int)
  deriving DecidableEq, Repr

structure Words where
  switches : List (Switch × Option String) := []
  others : List String := []
  deriving DecidableEq, Repr

def isSwitchWord (word : List Char) : Bool := word.head? == some '-' && 1 < word.length

def nextValue (name : String) : List String → Except UsageFault (String × List String)
  | [] => .error (.noValue name)
  | word :: rest => .ok (word, rest)

/-- Options by their letters in one word. The first that takes a value takes the rest of the word
for it, or the next word. -/
def readLetters (g : Grammar) (rest : List String) :
    List Char → Except UsageFault (List (Switch × Option String) × List String)
  | [] => .ok ([], rest)
  | c :: more => do
    let name := "-" ++ c.toString
    match g.letter? c with
    | none => throw (.noSwitch name [])
    | some s =>
      if s.kind.takesValue then
        if more.isEmpty then
          let (value, rest) ← nextValue name rest
          return ([(s, some value)], rest)
        else return ([(s, some (String.ofList more))], rest)
      else
        let (switches, rest) ← readLetters g rest more
        return ((s, none) :: switches, rest)

def readSwitch (g : Grammar) (word : List Char) (rest : List String) :
    Except UsageFault (List (Switch × Option String) × List String) := do
  let name := String.ofList (word.takeWhile (· != '='))
  let value? := (word.dropWhile (· != '=')).tail?.map String.ofList
  match g.switch? name with
  | some s =>
    if s.kind.takesValue then
      let (value, rest) ←
        match value? with
        | some value => pure (value, rest)
        | none => nextValue name rest
      return ([(s, some value)], rest)
    else if value?.isSome then throw (.surplusValue name)
    else return ([(s, none)], rest)
  | none =>
    if word.take 2 == ['-', '-'] then
      throw (.noSwitch name (closeTexts name (g.switches.map (·.name))))
    else readLetters g rest word.tail

def readWords (g : Grammar) : Nat → List String → Except UsageFault Words
  | 0, words => .ok { others := words }
  | _ + 1, [] => .ok {}
  | fuel + 1, word :: rest => do
    if word == "--" then return { others := rest }
    else if isSwitchWord word.toList then
      let (switches, rest) ← readSwitch g word.toList rest
      let more ← readWords g fuel rest
      return { more with switches := switches ++ more.switches }
    else if g.isFree then
      let more ← readWords g fuel rest
      return { more with others := word :: more.others }
    else return { others := word :: rest }

def Switch.read (s : Switch) (raw : Option String) : Except UsageFault Given :=
  match s.kind, raw with
  | .text, some value => .ok (.text value)
  | .whole, some value =>
    match readInteger 10 value.toList with
    | .ok n => .ok (.whole n)
    | .error _ => .error (.notWhole s.name value)
  | .wholeFrom low, some value =>
    match readInteger 10 value.toList with
    | .ok n => if n < low then .error (.tooSmall s.name n low) else .ok (.whole n)
    | .error _ => .error (.notInRange s.name value)
  | .choice words, some value =>
    let folded := String.ofList (fold value.toList)
    if words.contains folded then .ok (.text folded) else .error (.notChoice s.name value words)
  | _, _ => .ok .present

def distinct (switches : List (Switch × Option String)) : List Switch :=
  (switches.map (·.1)).eraseDups

def lastValue (switches : List (Switch × Option String)) (s : Switch) : Option String :=
  ((switches.filter fun e => e.1 == s).getLast?).bind (·.2)

/-- A command line that was understood: something to be shown, or the options and the other
words. -/
inductive Reading where
  | help
  | version
  | given (values : List (String × Given)) (others : List String)
  deriving DecidableEq, Repr

/-- Reads a command line: what is to be shown comes first, and then all values are read in the order
in which their options first occur. -/
def Grammar.read (g : Grammar) (line : List String) : Except UsageFault Reading := do
  let words ← readWords g line.length line
  let switches := distinct words.switches
  match switches.find? fun s => s.kind.isUrgent with
  | some s => return if s.kind == .version then .version else .help
  | none =>
    let values ← switches.mapM fun s => do
      return (s.name, ← s.read (lastValue words.switches s))
    let places := if g.argument.isSome then 1 else 0
    if g.isFree && places < words.others.length then
      throw (.surplusWords (words.others.drop places))
    return .given values words.others

end HatReel.Command
