import HatReel.Text.Parts
import HatReel.Text.Quoted
import HatReel.Text.Utf8

/-!
Paths of files. A path is a list of names below the working directory or below a root; empty names
and single dots are left out when a path is read, double dots stay.
-/

namespace HatReel.Files

/-- Where a path begins: at the working directory, or at a root written with one slash or with
two. -/
inductive Anchor where
  | here
  | root
  | doubleRoot
  deriving DecidableEq, Repr

structure Path where
  anchor : Anchor
  names : List String
  deriving DecidableEq, Repr

def isSkipped (name : List Char) : Bool := name.isEmpty || name == ['.']

/-- The home directories of the users that are known; a user's own is that of the empty name. -/
abbrev Homes := List (String × Path)

/-- The homes of a user who works in the directory that the own home is in. -/
def Homes.standard : Homes := [("", ⟨.here, ["home"]⟩), ("root", ⟨.root, ["root"]⟩)]

namespace Path

def ofText (text : String) : Path :=
  let cs := text.toList
  let slashes := (cs.takeWhile (· == '/')).length
  let anchor := if slashes = 0 then .here else if slashes = 2 then .doubleRoot else .root
  ⟨anchor, ((Text.fields '/' cs).filter fun n => !isSkipped n).map String.ofList⟩

/-- A path's text; the working directory itself is a dot. -/
def text (p : Path) : String :=
  let names := "/".intercalate p.names
  match p.anchor with
  | .here => if p.names.isEmpty then "." else names
  | .root => "/" ++ names
  | .doubleRoot => "//" ++ names

def parent (p : Path) : Path := { p with names := p.names.dropLast }

def name? (p : Path) : Option String := p.names.getLast?

def child (p : Path) (name : String) : Path := { p with names := p.names ++ [name] }

def addSuffix (p : Path) (suffix : String) : Path :=
  match p.name? with
  | some name => p.parent.child (name ++ suffix)
  | none => p

def hasNull (p : Path) : Bool := p.names.any fun n => n.toList.contains '\x00'

/-- A path with the home directory in place of a tilde and a user's name in front, if that home is
known. -/
def expandHome? (p : Path) (homes : Homes) : Option Path :=
  match p.anchor, p.names with
  | .here, first :: rest =>
    match first.toList with
    | '~' :: user => (homes.lookup (String.ofList user)).map fun home =>
        { home with names := home.names ++ rest }
    | _ => some p
  | _, _ => some p

/-- The names of a path below the working directory after every pair of a name and a double dot is
taken out; nothing for a path that leads elsewhere. -/
def normalNames (names : List String) : List String :=
  names.foldl
    (fun kept n =>
      if n != ".." then kept ++ [n]
      else if kept.isEmpty || kept.getLast? == some ".." then kept ++ [n]
      else kept.dropLast)
    []

def normalized (p : Path) : Path := { p with names := normalNames p.names }

theorem parent_child (p : Path) (name : String) : (p.child name).parent = p := by
  simp [parent, child]

theorem name?_child (p : Path) (name : String) : (p.child name).name? = some name := by
  simp [name?, child]

end Path

end HatReel.Files
