import HatReel.Decimal.Integer
import HatReel.Document.Value

/-!
Where frames come from: the number of a camera, or the name of a file or stream. A name made of
digits alone, blanks around it apart, is the number of a camera.
-/

namespace HatReel.Camera

open HatReel.Decimal HatReel.Document HatReel.Text

inductive Source where
  | index (n : Int)
  | name (s : String)
  deriving DecidableEq, Repr

def isNumber (s : String) : Bool :=
  let digits := trimBlanks s.toList
  !digits.isEmpty && digits.all isAnyDigit

/-- Reads a name as the number of a camera if it is made of digits. Digits that have no value in a
number are a fault. -/
def Source.ofName (s : String) : Except IntegerFault Source :=
  if isNumber s then (readInteger 10 s.toList).map Source.index else .ok (.name s)

def Source.normalize : Source → Except IntegerFault Source
  | .index n => .ok (.index n)
  | .name s => Source.ofName s

def Source.value : Source → Value
  | .index n => .int n
  | .name s => .text s

/-- Reads a source given as any scalar: only text is looked into. -/
def readSource : Value → Except IntegerFault Value
  | .text s => (Source.ofName s).map Source.value
  | v => .ok v

def Source.quoted : Source → String
  | .index n => toString n
  | .name s => Text.quoted s

end HatReel.Camera
