import HatReel.Settings.File

/-!
Settings that are changed step by step. A field may be set to anything; only new and loaded settings
are checked. A step that fails changes nothing but perhaps files.
-/

namespace HatReel.Settings

open HatReel.Document HatReel.Files

structure Session where
  record : Record := Settings.record {}
  files : Store := {}

inductive SessionFault where
  | load (fault : LoadFault)
  | file (fault : FileFault)
  | noSection
  | noField (typeName field : String)

def SessionFault.message : SessionFault → String
  | .load fault => fault.message
  | .file fault => fault.message
  | .noSection => ""
  | .noField typeName field => "\"" ++ typeName ++ "\" object has no field \"" ++ field ++ "\""

namespace Record

def equals (r s : Record) : Bool :=
  let values (r : Record) : List Value := List.flatMap (fun t => t.fields.map (·.value)) r
  equal (.list (values r)) (.list (values s))

def section? (r : Record) (name : String) : Option Section := List.find? (fun t => t.name == name) r

def setField (r : Record) (sectionName field : String) (v : Value) : Except SessionFault Record :=
  match r.section? sectionName with
  | none => .error .noSection
  | some t =>
    if t.fields.any fun f => f.name == field then
      .ok (List.map (fun t =>
        if t.name == sectionName then
          { t with fields := t.fields.map fun f =>
              if f.name == field then { f with value := v } else f }
        else t) r)
    else .error (.noField t.typeName field)

end Record

namespace Session

def renew (s : Session) (sections : Fields) : Except SessionFault Session :=
  match readConfig sections with
  | .valid config => .ok { s with record := Settings.record config }
  | .invalid problems => .error (.load (.invalid problems))

def setField (s : Session) (sectionName field : String) (v : Value) :
    Except SessionFault Session := do
  return { s with record := ← s.record.setField sectionName field v }

def save (s : Session) (path : String) : Session × Except SessionFault String :=
  match s.record.save s.files (Path.ofText path) with
  | (files, none) => ({ s with files }, .ok s.record.text)
  | (files, some fault) => ({ s with files }, .error (.file fault))

def load (s : Session) (path : Option String) : Except SessionFault Session :=
  match Settings.load s.files path with
  | .ok config => .ok { s with record := Settings.record config }
  | .error fault => .error (.load fault)

def equalsDefault (s : Session) : Bool := s.record.equals (Settings.record {})

end Session

end HatReel.Settings
