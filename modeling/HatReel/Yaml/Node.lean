import HatReel.Yaml.Implied
import HatReel.Yaml.Token

/-!
The nodes of a document. They refer to one another by number, because aliases may lead to one node
from several places, and even back to a node that they lie in.
-/

namespace HatReel.Yaml

inductive Content where
  | scalar (text : ScalarText)
  | sequence (items : List Nat)
  | mapping (entries : List (Nat × Nat))
  deriving DecidableEq, Repr

def Content.form : Content → Form
  | .scalar _ => .scalar
  | .sequence _ => .sequence
  | .mapping _ => .mapping

structure Node where
  tag : Tag
  start : Mark
  content : Content
  deriving DecidableEq, Repr

abbrev Nodes := Array Node

/-- A scalar without text, where something is left out. -/
def emptyText : ScalarText := ⟨[], true, false⟩

/-- Stands for a node that is not there. -/
def noNode : Node := ⟨.null, ⟨0, 0, 0⟩, .scalar emptyText⟩

def Nodes.at (nodes : Nodes) (id : Nat) : Node := nodes[id]?.getD noNode

def Nodes.setContent (nodes : Nodes) (id : Nat) (content : Content) : Nodes :=
  nodes.modify id fun node => { node with content }

def Nodes.setTag (nodes : Nodes) (id : Nat) (tag : Tag) : Nodes :=
  nodes.modify id fun node => { node with tag }

def Nodes.entries (nodes : Nodes) (id : Nat) : List (Nat × Nat) :=
  match (nodes.at id).content with
  | .mapping entries => entries
  | _ => []

/-- The tag of a scalar: what its text implies, if no tag is given or only the mark that none is. -/
def scalarTag (given : Option String) (s : ScalarText) : Tag :=
  match given with
  | none => if s.isPlain then .implied s.text else .str
  | some uri => if uri == "!" then .implied s.text else .ofUri uri

def collectionTag (given : Option String) (default : Tag) : Tag :=
  match given with
  | none => default
  | some uri => if uri == "!" then default else .ofUri uri

end HatReel.Yaml
