import HatReel.Files.Store
import HatReel.Settings.Reader
import HatReel.Settings.Record
import HatReel.Text.Parts
import HatReel.Yaml.Meaning
import HatReel.Yaml.Printer

/-!
Settings in files. A file holds one document, a mapping of sections; a document that says nothing
stands for the defaults.
-/

namespace HatReel.Settings

open HatReel.Binary HatReel.Document HatReel.Files HatReel.Text

inductive LoadFault where
  | missing (path : String)
  | file (fault : FileFault)
  | encoding (fault : Utf8Fault)
  | document (fault : Yaml.Fault)
  /-- The document is not a mapping with names for keys. -/
  | notSections
  | invalid (problems : List Problem)

def LoadFault.message : LoadFault → String
  | .missing path => s!"Configuration file not found: {path}"
  | .file fault => fault.message
  | .encoding fault => fault.message
  | .document fault => fault.message
  | .notSections => ""
  | .invalid _ => ""

def isName : Value → Bool
  | .text _ | .brokenText => true
  | _ => false

def ofDocument (v : Value) : Except LoadFault Config :=
  match if isNothing v then .map [] else v with
  | .map sections =>
    if sections.all fun e => isName e.1 then
      match readConfig sections with
      | .valid config => .ok config
      | .invalid problems => .error (.invalid problems)
    else .error .notSections
  | _ => .error .notSections

/-- How deep settings are nested: sections, fields, items, and one level to tell that there is
more. -/
def depth : Nat := 4

def ofText (text : String) : Except LoadFault Config := do
  ofDocument (← (Yaml.readValue depth text).mapError .document)

def fileText (content : List UInt8) : Except LoadFault String :=
  match decodeUtf8 content with
  | .ok cs => .ok (String.ofList (unifyLines cs))
  | .error fault => .error (.encoding fault.inFile)

def loadFile (s : Store) (p : Path) : Except LoadFault Config := do
  if !(← (s.exists? p).mapError .file) then throw (.missing p.text)
  ofText (← fileText (← (s.read p).mapError .file))

def load (s : Store) (path : Option String) : Except LoadFault Config :=
  match path with
  | none => .ok {}
  | some path => loadFile s (Path.ofText path)

mutual

def finiteOnly : Value → Value
  | .float x => if isFinite x then .float x else .null
  | .list items => .list (finiteItems items)
  | .tuple items => .tuple (finiteItems items)
  | .map entries => .map (finiteEntries entries)
  | v => v

def finiteItems : List Value → List Value
  | [] => []
  | item :: items => finiteOnly item :: finiteItems items

def finiteEntries : List (Value × Value) → List (Value × Value)
  | [] => []
  | (key, value) :: entries => (key, finiteOnly value) :: finiteEntries entries

end

/-- A field's value as it is saved. A switch counts as a whole number where one is expected, and a
number that is not finite is kept only where any number is. -/
def Field.saved (f : Field) : Value :=
  match f.kind, f.value with
  | .whole, .bool b => .int (if b then 1 else 0)
  | .real, .float x => .float x
  | _, v => finiteOnly v

def Section.entry (s : Section) : Value × Value :=
  (.text s.name, .map (s.fields.map fun f => (.text f.name, f.saved)))

def Record.text (r : Record) : String := Yaml.printMapping (List.map Section.entry r)

/-- Saves a record in a file, and makes the directories above it. What was made before a refusal
stays. -/
def Record.save (r : Record) (s : Store) (p : Path) : Store × Option FileFault :=
  match s.ensureDirectory p.parent with
  | (s, some fault) => (s, some fault)
  | (s, none) =>
    match s.write p (utf8 r.text) with
    | .ok s => (s, none)
    | .error fault => (s, some fault)

end HatReel.Settings
