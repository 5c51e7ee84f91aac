import HatReel.Decimal.Reader
import HatReel.Document.Value
import HatReel.Text.Base64
import HatReel.Text.Parts
import HatReel.Text.Letter
import HatReel.Yaml.Implied
import HatReel.Yaml.Token

/-!
Values of scalars by their tags. Underscores in numbers do not count, a leading zero makes an octal
number, and colons stand between digits in base sixty.
-/

namespace HatReel.Yaml

open HatReel.Decimal HatReel.Document HatReel.Text

def unsigned (text : List Char) : Bool × List Char := splitSign (text.filter (· != '_'))

def wholeOf (base : Nat) (text : List Char) : Except ScalarFault Int :=
  (readInteger base text).mapError .integer

def magnitude (text : List Char) : Except ScalarFault Int := do
  match text with
  | [] => throw .empty
  | '0' :: 'b' :: digits => wholeOf 2 digits
  | '0' :: 'x' :: digits => wholeOf 16 digits
  | '0' :: _ => wholeOf 8 text
  | _ =>
    if text.contains ':' then
      let parts ← (fields ':' text).mapM (wholeOf 10)
      return parts.foldl (fun n d => n * 60 + d) 0
    else wholeOf 10 text

def integerOf (text : List Char) : Except ScalarFault Int := do
  let (negative, body) := unsigned text
  let n ← magnitude body
  return if negative then -n else n

def realOf (text : List Char) : Except ScalarFault Float :=
  match readFloat text with
  | some x => .ok x
  | none => .error (.number (String.ofList text))

/-- The sum of parts with weights of sixty to the power of their places, the last part first. -/
def sixtiesSum (weight : Nat) : List Float → Float → Float
  | [], sum => sum
  | x :: rest, sum => sixtiesSum (weight * 60) rest (sum + x * Float.ofNat weight)

/-- A number that need not be whole, without its sign. -/
def realMagnitude (text : List Char) : Except ScalarFault Float := do
  if text == ".inf".toList then return Binary.infinity false
  else if text == ".nan".toList then return Binary.notANumber
  else if text.contains ':' then
    let parts ← (fields ':' text).mapM realOf
    return sixtiesSum 1 parts.reverse 0.0
  else realOf text

def floatOf (text : List Char) : Except ScalarFault Float := do
  let (negative, body) := unsigned (text.map lowerAscii)
  if body.isEmpty && !text.any (fun c => c == '-' || c == '+') then throw .empty
  let x ← realMagnitude body
  return if negative then -x else x

def switchOf (text : List Char) : Except ScalarFault Bool :=
  let word := String.ofList (text.map lowerAscii)
  match switchWords.lookup word with
  | some b => .ok b
  | none => .error (.switch word)

def checkInstant (text : List Char) : Except ScalarFault Unit :=
  match Instant.ofText? text with
  | some i => i.check.mapError .instant
  | none => .error .notInstant

def bytesOf (text : List Char) : Except NodeFault (List UInt8) :=
  match asciiComplaint? text with
  | some complaint => .error (.binaryText complaint)
  | none => (decodeBase64 text).mapError fun fault => .binaryDigits fault.message

/-- The value of a scalar at a place; nothing for tags that scalars do not have. -/
def scalarValue (tag : Tag) (s : ScalarText) (place : Mark) : Except Fault Value :=
  let plain (r : Except ScalarFault Value) : Except Fault Value := r.mapError .scalar
  match tag with
  | .null => .ok .null
  | .bool => plain ((switchOf s.text).map .bool)
  | .int => plain ((integerOf s.text).map .int)
  | .float => plain ((floatOf s.text).map .float)
  | .binary =>
    match bytesOf s.text with
    | .ok bytes => .ok (.bytes bytes)
    | .error fault => .error (.node fault place)
  | .timestamp => plain ((checkInstant s.text).map fun _ => .date)
  | _ => .ok (if s.isBroken then .brokenText else .text (String.ofList s.text))

end HatReel.Yaml
