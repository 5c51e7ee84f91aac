import HatReel.Yaml.Merge
import HatReel.Yaml.ScalarValue
import HatReel.Yaml.Tree

/-!
The value of a document. Nodes are visited level by level from the root, and the first that does not
fit its tag is the fault of the document. Where aliases lead in a circle the value has no end, so it
is unfolded to a limited depth only.
-/

namespace HatReel.Yaml

open HatReel.Document

def isCollectionTag (tag : Tag) : Bool :=
  [Tag.seq, .map, .set, .omap, .pairs].contains tag

/-- The scalar that stands for a node: itself, or in a mapping the value under a lone equals
sign. -/
def scalarAt (nodes : Nodes) : Nat → Nat → Except Fault ScalarText
  | 0, _ => .ok emptyText
  | fuel + 1, id =>
    let node := nodes.at id
    let wrong (found : Form) : Except Fault ScalarText :=
      .error (.node (.wrongForm .scalar found) node.start)
    match node.content with
    | .scalar s => .ok s
    | .sequence _ => wrong .sequence
    | .mapping entries =>
      match entries.find? fun e => (nodes.at e.1).tag == .value with
      | some e => scalarAt nodes fuel e.2
      | none => wrong .mapping

/-- What has been found out about the nodes so far: values of scalars, and collections to be
visited. -/
structure Visit where
  nodes : Nodes
  scalars : List (Nat × Value) := []
  collections : List Nat := []
  waiting : List Nat := []

namespace Visit

def isKnown (v : Visit) (id : Nat) : Bool :=
  (v.scalars.lookup id).isSome || v.collections.contains id

/-- Looks at a node that has not been looked at: gives a scalar its value, and puts a collection
last among those to be visited. -/
def look (v : Visit) (id : Nat) : Except Fault Visit := do
  if v.isKnown id then return v
  let node := v.nodes.at id
  if isCollectionTag node.tag then
    return { v with collections := id :: v.collections, waiting := v.waiting ++ [id] }
  match node.tag with
  | .merge | .value | .indicator | .other _ => throw (.node (.unknownTag node.tag.uri) node.start)
  | tag =>
    let s ← scalarAt v.nodes (v.nodes.size + 1) id
    match tag, node.content with
    | .timestamp, .mapping _ => throw (.scalar .notText)
    | _, _ => return { v with scalars := (id, ← scalarValue tag s node.start) :: v.scalars }

def lookEntry (v : Visit) (entry : Nat × Nat) : Except Fault Visit := do
  let v ← v.look entry.1
  let key := v.nodes.at entry.1
  if isCollectionTag key.tag then throw (.node .unhashableKey key.start)
  v.look entry.2

def lookPair (v : Visit) (id : Nat) : Except Fault Visit := do
  let node := v.nodes.at id
  match node.content with
  | .mapping [(key, value)] => (← v.look key).look value
  | .mapping entries => throw (.node (.pairSize entries.length) node.start)
  | content => throw (.node (.pair content.form) node.start)

def open? (v : Visit) (id : Nat) : Except Fault Visit := do
  let node := v.nodes.at id
  match node.tag, node.content with
  | .seq, .sequence items => items.foldlM look v
  | .seq, content => throw (.node (.wrongForm .sequence content.form) node.start)
  | .omap, .sequence items | .pairs, .sequence items => items.foldlM lookPair v
  | .omap, content | .pairs, content => throw (.node (.pairs content.form) node.start)
  | _, .mapping _ =>
    let nodes ← resolveMerges id v.nodes
    (nodes.entries id).foldlM lookEntry { v with nodes }
  | _, content => throw (.node (.wrongForm .mapping content.form) node.start)

/-- Visits all collections that can be reached. Each is visited once. -/
def all : Nat → Visit → Except Fault Visit
  | 0, v => .ok v
  | fuel + 1, v =>
    match v.waiting with
    | [] => .ok v
    | id :: rest => do all fuel (← open? { v with waiting := rest } id)

end Visit

/-- The members of a set have no order of their own. Whole numbers come by the last three of their
bits, minus one by those of minus two. -/
def setOrder (items : List Value) : List Value :=
  let place (v : Value) : Int :=
    match wholeNumber? v with
    | some n => if n == -1 then 6 else n % 8
    | none => 0
  items.mergeSort fun a b => place a ≤ place b
where
  wholeNumber? : Value → Option Int
    | .bool b => some (if b then 1 else 0)
    | .int n => some n
    | .float x => Binary.integer? x
    | _ => none

/-- The value of a node, with collections nested at most `depth` deep; deeper ones are shown
empty. -/
def valueOf (v : Visit) : Nat → Nat → Value
  | 0, id => (v.scalars.lookup id).getD (.list [])
  | depth + 1, id =>
    match v.scalars.lookup id with
    | some value => value
    | none =>
      let node := v.nodes.at id
      match node.tag, node.content with
      | .set, .mapping entries =>
        let keys := entries.map fun e => (valueOf v depth e.1, Value.null)
        .set (setOrder ((keys.foldl putEntry []).map (·.1)))
      | .omap, .sequence items | .pairs, .sequence items =>
        .list (items.flatMap fun item =>
          (v.nodes.entries item).map fun e => .tuple [valueOf v depth e.1, valueOf v depth e.2])
      | _, .sequence items => .list (items.map (valueOf v depth))
      | _, .mapping entries =>
        let pairs := entries.map fun e => (valueOf v depth e.1, valueOf v depth e.2)
        .map (pairs.foldl putEntry [])
      | _, .scalar _ => .null

/-- Reads a text as one document; without any content it is null. -/
def readValue (depth : Nat) (text : String) : Except Fault Value := do
  let (nodes, root) ← readNodes text.toList
  match root with
  | none => return .null
  | some root =>
    let v ← Visit.look { nodes } root
    let v ← v.all (nodes.size + 1)
    return valueOf v depth root

end HatReel.Yaml
