import HatReel.Document.Value
import HatReel.Settings.Basic
import HatReel.Settings.Number
import HatReel.Text.Utf8

/-!
Settings from a document. Each field takes what its kind allows: whole numbers also as text or as a
number without a fraction, switches also as words, and so on. Sections and fields are read in their
order, and all problems are reported.
-/

namespace HatReel.Settings

open HatReel.Binary HatReel.Camera HatReel.Document HatReel.Log HatReel.Text

abbrev Fields := List (Value × Value)

/-- Integral numbers beyond 64 bits are not taken from a float. -/
def ofIntegral (n : Int) : Checked Int :=
  if -9223372036854775808 < n && n < 9223372036854775808 then .valid n
  else .complain .tooManyDigits

def wholeValue (v : Value) : Checked Int :=
  match v with
  | .bool b => .valid (if b then 1 else 0)
  | .int n => .valid n
  | .float x =>
    if isFinite x then
      match integer? x with
      | some n => ofIntegral n
      | none => .complain .fractional
    else .complain .notFinite
  | .text s => readWhole s.toList
  | .bytes b =>
    match decodeUtf8 b with
    | .ok cs => readWhole cs
    | .error _ => .complain .unreadableWhole
  | .brokenText => .complain .unreadableText
  | _ => .complain .notWhole

def realValue (v : Value) : Checked Float :=
  match v with
  | .bool b => .valid (if b then 1.0 else 0.0)
  | .int n =>
    match ofInt? n with
    | some x => .valid x
    | none => .complain .notNumber
  | .float x => .valid x
  | .text s => readReal s.toList
  | .bytes b =>
    match decodeUtf8 b with
    | .ok cs => readReal cs
    | .error _ => .complain .unreadableNumber
  | .brokenText => .complain .unreadableText
  | _ => .complain .notNumber

def textValue (v : Value) : Checked String :=
  match v with
  | .text s => .valid s
  | .bytes b =>
    match decodeUtf8 b with
    | .ok cs => .valid (String.ofList cs)
    | .error _ => .complain .unreadableText
  | .brokenText => .complain .unreadableText
  | _ => .complain .notText

def offWords : List String := ["0", "off", "f", "false", "n", "no"]

def onWords : List String := ["1", "on", "t", "true", "y", "yes"]

def switchWord (cs : List Char) : Checked Bool :=
  let word := String.ofList (cs.map lowerAscii)
  if onWords.contains word then .valid true
  else if offWords.contains word then .valid false
  else .complain .unreadableSwitch

def switchNumber (n : Int) : Checked Bool :=
  if n == 0 then .valid false else if n == 1 then .valid true else .complain .unreadableSwitch

def switchValue (v : Value) : Checked Bool :=
  match v with
  | .bool b => .valid b
  | .int n => switchNumber n
  | .float x =>
    match (integer? x).map ofIntegral with
    | some (.valid n) => switchNumber n
    | _ => .complain .notSwitch
  | .text s => switchWord s.toList
  | .bytes b =>
    match decodeUtf8 b with
    | .ok cs => switchWord cs
    | .error _ => .complain .unreadableSwitch
  | .brokenText => .complain .unreadableText
  | _ => .complain .notSwitch

def optional {α : Type} (read : Value → Checked α) (v : Value) : Checked (Option α) :=
  match v with
  | .null => .valid none
  | v => (read v).map some

/-- A source is a whole number or text; text stays text whatever it says. -/
def sourceValue (v : Value) : Checked Source :=
  match v with
  | .text s => .valid (.name s)
  | v =>
    match wholeValue v, textValue v with
    | .valid n, _ => .valid (.index n)
    | .invalid _, .valid s => .valid (.name s)
    | .invalid ps, .invalid qs =>
      .ap ((Checked.invalid ps : Checked (Source → Source)).under (.field "int"))
        ((Checked.invalid qs : Checked Source).under (.field "str"))

def itemsOf? : Value → Option (List Value)
  | .list items => some items
  | .tuple items => some items
  | .set items => some items
  | _ => none

def pairItem (items : List Value) (i : Nat) : Checked Int :=
  match items[i]? with
  | some v => (wholeValue v).under (.item i)
  | none => (Checked.complain .missing).under (.item i)

def pairValue (v : Value) : Checked (Int × Int) :=
  match itemsOf? v with
  | none => .complain .notPair
  | some items =>
    if 2 < items.length then .complain (.tooLong items.length)
    else Prod.mk <$> pairItem items 0 <*> pairItem items 1

def positive (c : Checked Float) : Checked Float :=
  c.require (fun x => 0.0 < x) fun _ => .outOfBound (.above 0)

def notNegative (c : Checked Float) : Checked Float :=
  c.require (fun x => 0.0 ≤ x) fun _ => .outOfBound (.atLeast 0)

/-- A number from 0 to 255; the upper bound is looked at first. -/
def byteRange (c : Checked Float) : Checked Float :=
  notNegative (c.require (fun x => x ≤ 255.0) fun _ => .outOfBound (.atMost 255))

def wholeFrom (low : Nat) (c : Checked Int) : Checked Int :=
  c.require (fun n => (low : Int) ≤ n) fun _ => .outOfBound (.atLeast low)

def fourcc (c : Checked String) : Checked String :=
  c.require (fun s => s.length == 4) .codeLength

/-- A factor that is refused if it is one or less. -/
def scaleFactor (c : Checked Float) : Checked Float :=
  c.require (fun x => !(x ≤ 1.0)) fun _ => .scaleTooSmall

def levelValue (v : Value) : Checked Level :=
  (textValue v).bind fun s =>
    match Level.ofName? s with
    | some l => .valid l
    | none => .complain (.unknownLevel s)

def Fields.find? (fields : Fields) (name : String) : Option Value :=
  (List.find? (fun e => match e.1 with | .text k => k == name | _ => false) fields).map (·.2)

def Fields.read {α : Type} (fields : Fields) (name : String) (default : α)
    (read : Value → Checked α) : Checked α :=
  match fields.find? name with
  | some v => (read v).under (.field name)
  | none => .valid default

def readCamera (fields : Fields) : Checked CameraSettings :=
  CameraSettings.mk <$> fields.read "source" (.index 0) sourceValue
    <*> fields.read "width" none (optional wholeValue)
    <*> fields.read "height" none (optional wholeValue)
    <*> fields.read "gamma" 2.2 fun v => positive (realValue v)

def readClassifier (fields : Fields) : Checked ClassifierSettings :=
  let defaults : ClassifierSettings := {}
  ClassifierSettings.mk <$> fields.read "url" defaults.url textValue
    <*> fields.read "cache_dir" defaults.cacheDir textValue
    <*> fields.read "timeout" defaults.timeout (fun v => positive (realValue v))
    <*> fields.read "scale_factor" defaults.scaleFactor (fun v => scaleFactor (realValue v))
    <*> fields.read "min_neighbors" defaults.minNeighbors (fun v => wholeFrom 0 (wholeValue v))
    <*> fields.read "min_size" defaults.minSize pairValue

def readContours (fields : Fields) : Checked ContourSettings :=
  ContourSettings.mk <$> fields.read "threshold" 64.0 (fun v => byteRange (realValue v))
    <*> fields.read "max_value" 255.0 (fun v => byteRange (realValue v))
    <*> fields.read "epsilon_ratio" 0.02 fun v => positive (realValue v)

def readWarp (fields : Fields) : Checked WarpSettings :=
  WarpSettings.mk <$> fields.read "spread" 0.25 (fun v => notNegative (realValue v))
    <*> fields.read "seed" none (optional wholeValue)

def readRecorder (fields : Fields) : Checked RecorderSettings :=
  RecorderSettings.mk <$> fields.read "path" "output.avi" textValue
    <*> fields.read "fps" 30.0 (fun v => positive (realValue v))
    <*> fields.read "fourcc" "MJPG" fun v => fourcc (textValue v)

def readDisplay (fields : Fields) : Checked DisplaySettings :=
  DisplaySettings.mk <$> fields.read "title" "Some Title" textValue
    <*> fields.read "enabled" true switchValue
    <*> fields.read "gamma" 2.2 fun v => positive (realValue v)

def readRun (fields : Fields) : Checked RunSettings :=
  RunSettings.mk <$> fields.read "max_frames" none
    (optional fun v => wholeFrom 1 (wholeValue v))

def readLogging (fields : Fields) : Checked LoggingSettings :=
  LoggingSettings.mk <$> fields.read "level" .info levelValue
    <*> fields.read "file" none (optional textValue)

def readSection {α : Type} (name : String) (read : Fields → Checked α) (v : Value) : Checked α :=
  match v with
  | .map fields => read fields
  | _ => .complain (.notSection name)

def readConfig (sections : Fields) : Checked Config :=
  Config.mk <$> sections.read "camera" {} (readSection "CameraConfig" readCamera)
    <*> sections.read "classifier" {} (readSection "ClassifierConfig" readClassifier)
    <*> sections.read "contours" {} (readSection "ContourConfig" readContours)
    <*> sections.read "warp" {} (readSection "WarpConfig" readWarp)
    <*> sections.read "recorder" {} (readSection "RecorderConfig" readRecorder)
    <*> sections.read "display" {} (readSection "DisplayConfig" readDisplay)
    <*> sections.read "run" {} (readSection "RunConfig" readRun)
    <*> sections.read "logging" {} (readSection "LoggingConfig" readLogging)

end HatReel.Settings
