import HatReel.Files.Path

/-!
A store of files and directories. Every entry stands under its full list of names; a path is
followed name by name, through directories only. Operations fail for the same reasons, and in the
same order, as those of an operating system.
-/

namespace HatReel.Files

inductive Errno where
  | noEntry
  | busy
  | exists
  | notDirectory
  | isDirectory
  | nameTooLong
  deriving DecidableEq, Repr

def Errno.number : Errno → Nat
  | .noEntry => 2
  | .busy => 16
  | .exists => 17
  | .notDirectory => 20
  | .isDirectory => 21
  | .nameTooLong => 36

def Errno.text : Errno → String
  | .noEntry => "No such file or directory"
  | .busy => "Device or resource busy"
  | .exists => "File exists"
  | .notDirectory => "Not a directory"
  | .isDirectory => "Is a directory"
  | .nameTooLong => "File name too long"

inductive FileFault where
  | refused (errno : Errno) (path : String) (target : Option String)
  | nullByte
  deriving DecidableEq, Repr

def FileFault.message : FileFault → String
  | .refused errno path none => s!"[Errno {errno.number}] {errno.text}: {Text.quoted path}"
  | .refused errno path (some target) =>
    s!"[Errno {errno.number}] {errno.text}: {Text.quoted path} -> {Text.quoted target}"
  | .nullByte => "embedded null byte"

inductive Node where
  | directory
  | file (content : List UInt8)
  deriving DecidableEq, Repr

/-- Names from the top of the store down to an entry. -/
abbrev Key := List String

/-- The working directory, which is always there. -/
def here : Key := [""]

structure Store where
  entries : List (Key × Node) := []
  deriving DecidableEq

namespace Store

def node? (s : Store) (key : Key) : Option Node :=
  if key == [] || key == here then some .directory
  else (s.entries.find? fun e => e.1 == key).map (·.2)

def put (s : Store) (key : Key) (node : Node) : Store :=
  if s.entries.any fun e => e.1 == key then
    ⟨s.entries.map fun e => if e.1 == key then (key, node) else e⟩
  else ⟨s.entries ++ [(key, node)]⟩

def remove (s : Store) (key : Key) : Store := ⟨s.entries.filter fun e => e.1 != key⟩

def start (p : Path) : Key :=
  match p.anchor with
  | .here => here
  | _ => []

def isTooLong (name : String) : Bool := 255 < name.utf8ByteSize

def enter (key : Key) (name : String) : Except Errno Key :=
  if name == ".." then .ok key.dropLast
  else if isTooLong name then .error .nameTooLong
  else .ok (key ++ [name])

def follow (s : Store) (key : Key) : List String → Except Errno (Key × Node)
  | [] =>
    match s.node? key with
    | some node => .ok (key, node)
    | none => .error .noEntry
  | name :: rest =>
    match s.node? key with
    | some .directory => do s.follow (← enter key name) rest
    | some (.file _) => .error .notDirectory
    | none => .error .noEntry

def look (s : Store) (p : Path) : Except Errno (Key × Node) :=
  if 4095 < p.text.utf8ByteSize then .error .nameTooLong else s.follow (start p) p.names

/-- Where a path's last name belongs: the key, which may be free, and what is there. A path whose
last name is no name of its own leads to a directory. -/
def place (s : Store) (p : Path) : Except Errno (Key × Option Node) :=
  match p.name? with
  | none => (s.look p).map fun (key, node) => (key, some node)
  | some name =>
    if name == ".." then (s.look p).map fun (key, node) => (key, some node)
    else do
      if 4095 < p.text.utf8ByteSize then throw .nameTooLong
      match ← s.follow (start p) p.names.dropLast with
      | (_, .file _) => throw .notDirectory
      | (key, .directory) =>
        let key ← enter key name
        return (key, s.node? key)

/-- Reasons that count as "not there" when it is only asked whether something is. -/
def isAbsence : Errno → Bool
  | .noEntry | .notDirectory => true
  | _ => false

def refuse {α : Type} (p : Path) (errno : Errno) : Except FileFault α :=
  .error (.refused errno p.text none)

def look? (s : Store) (p : Path) : Except FileFault (Option Node) :=
  if p.hasNull then .ok none
  else
    match s.look p with
    | .ok (_, node) => .ok (some node)
    | .error errno => if isAbsence errno then .ok none else refuse p errno

def exists? (s : Store) (p : Path) : Except FileFault Bool := (s.look? p).map Option.isSome

def isFile? (s : Store) (p : Path) : Except FileFault Bool :=
  (s.look? p).map fun node =>
    match node with
    | some (.file _) => true
    | _ => false

def isDirectory? (s : Store) (p : Path) : Except FileFault Bool :=
  (s.look? p).map fun node =>
    match node with
    | some .directory => true
    | _ => false

def makeDirectory (s : Store) (p : Path) : Except Errno Store := do
  match ← s.place p with
  | (_, some _) => throw .exists
  | (key, none) => return s.put key .directory

/-- Makes a directory and the directories above it, at most `fuel` of them, as far as they are not
there. What was made before a refusal stays. -/
def makeDirectories : Nat → Store → Path → Store × Option FileFault
  | 0, s, _ => (s, none)
  | fuel + 1, s, p =>
    if p.hasNull then (s, some .nullByte)
    else
      match s.makeDirectory p with
      | .ok s => (s, none)
      | .error .noEntry =>
        if p.names.isEmpty then (s, some (.refused .noEntry p.text none))
        else
          match makeDirectories fuel s p.parent with
          | (s, some fault) => (s, some fault)
          | (s, none) => settle s p
      | .error errno => settleWith s p errno
where
  settle (s : Store) (p : Path) : Store × Option FileFault :=
    match s.makeDirectory p with
    | .ok s => (s, none)
    | .error .noEntry => (s, some (.refused .noEntry p.text none))
    | .error errno => settleWith s p errno
  settleWith (s : Store) (p : Path) (errno : Errno) : Store × Option FileFault :=
    match s.isDirectory? p with
    | .error fault => (s, some fault)
    | .ok true => (s, none)
    | .ok false => (s, some (.refused errno p.text none))

def ensureDirectory (s : Store) (p : Path) : Store × Option FileFault :=
  makeDirectories (p.names.length + 1) s p

def read (s : Store) (p : Path) : Except FileFault (List UInt8) :=
  if p.hasNull then .error .nullByte
  else
    match s.look p with
    | .ok (_, .file content) => .ok content
    | .ok (_, .directory) => refuse p .isDirectory
    | .error errno => refuse p errno

def openFile (s : Store) (p : Path) : Except FileFault (Key × List UInt8) :=
  if p.hasNull then .error .nullByte
  else
    match s.place p with
    | .ok (key, some (.file content)) => .ok (key, content)
    | .ok (key, none) => .ok (key, [])
    | .ok (_, some .directory) => refuse p .isDirectory
    | .error errno => refuse p errno

def write (s : Store) (p : Path) (content : List UInt8) : Except FileFault Store :=
  (s.openFile p).map fun (key, _) => s.put key (.file content)

def append (s : Store) (key : Key) (content : List UInt8) : Store :=
  match s.node? key with
  | some (.file old) => s.put key (.file (old ++ content))
  | _ => s

/-- Removes a file; that there is none is no fault. The key of the removed file is returned. -/
def unlink (s : Store) (p : Path) : Except FileFault (Store × Option Key) :=
  if p.hasNull then .error .nullByte
  else
    match s.place p with
    | .ok (key, some (.file _)) => .ok (s.remove key, some key)
    | .ok (_, some .directory) => refuse p .isDirectory
    | .ok (_, none) => .ok (s, none)
    | .error .noEntry => .ok (s, none)
    | .error errno => refuse p errno

/-- Gives a file a new name in place of whatever file has it. The old and the new key are
returned. -/
def replace (s : Store) (p target : Path) : Except FileFault (Store × Key × Key) :=
  let refused {α : Type} (errno : Errno) : Except FileFault α :=
    .error (.refused errno p.text (some target.text))
  if p.hasNull || target.hasNull then .error .nullByte
  else
    match s.place p with
    | .ok (old, some (.file content)) =>
      if target.name? == none || target.name? == some ".." then refused .busy
      else
        match s.place target with
        | .ok (_, some .directory) => refused .isDirectory
        | .ok (new, _) => .ok ((s.remove old).put new (.file content), old, new)
        | .error errno => refused errno
    | .ok (_, some .directory) => refused .isDirectory
    | .ok (_, none) => refused .noEntry
    | .error errno => refused errno

/-- The entries below the working directory, in the order of their texts' bytes; a directory's text
ends in a slash. -/
def listing (s : Store) : List (String × Option (List UInt8)) :=
  let named := s.entries.filterMap fun (key, node) =>
    match key with
    | "" :: first :: rest =>
      let name := "/".intercalate (first :: rest)
      match node with
      | .directory => some (name ++ "/", none)
      | .file content => some (name, some content)
    | _ => none
  named.mergeSort fun a b => bytesBefore (Text.utf8 a.1) (Text.utf8 b.1)
where
  bytesBefore : List UInt8 → List UInt8 → Bool
    | [], _ => true
    | _ :: _, [] => false
    | a :: as, b :: bs => a < b || (a == b && bytesBefore as bs)

end Store

end HatReel.Files
