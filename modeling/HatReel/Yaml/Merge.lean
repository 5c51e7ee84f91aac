import HatReel.Yaml.Node

/-!
Merged mappings. An entry whose key is the merge mark gives way to the entries of the mapping, or of
the mappings, that it names. They come before the entries of the mapping itself, which so win over
them.
-/

namespace HatReel.Yaml

def isMergeKey (nodes : Nodes) (entry : Nat × Nat) : Bool := (nodes.at entry.1).tag == .merge

/-- A lone equals sign is text where it is a key. -/
def textKeys (nodes : Nodes) (entries : List (Nat × Nat)) : Nodes :=
  entries.foldl (fun nodes e =>
    if (nodes.at e.1).tag == .value then nodes.setTag e.1 .str else nodes) nodes

/-- Resolves the merge marks of a mapping from an entry on, when `merged` is what those before it
gave. Each mark is removed before what it names is looked at, so that a mapping may even name
itself. -/
def mergeFrom : Nat → (id index : Nat) → List (Nat × Nat) → Nodes → Except Fault Nodes
  | 0, _, _, _, nodes => .ok nodes
  | fuel + 1, id, index, merged, nodes => do
    let entries := nodes.entries id
    let run := (entries.drop index).takeWhile (!isMergeKey nodes ·)
    let nodes := textKeys nodes run
    let index := index + run.length
    match entries.drop index with
    | [] =>
      if merged.isEmpty then return nodes
      else return nodes.setContent id (.mapping (merged ++ entries))
    | (_, source) :: _ =>
      let nodes := nodes.setContent id (.mapping (entries.eraseIdx index))
      match (nodes.at source).content with
      | .mapping _ =>
        let nodes ← mergeFrom fuel source 0 [] nodes
        mergeFrom fuel id index (merged ++ nodes.entries source) nodes
      | .sequence items =>
        let (nodes, lists) ← items.foldlM (fun (nodes, lists) item => do
          match (nodes.at item).content with
          | .mapping _ =>
            let nodes ← mergeFrom fuel item 0 [] nodes
            return (nodes, nodes.entries item :: lists)
          | content => throw (.node (.mergeItem content.form) (nodes.at item).start))
          (nodes, ([] : List (List (Nat × Nat))))
        mergeFrom fuel id index (merged ++ lists.flatten) nodes
      | content => throw (.node (.mergeValue content.form) (nodes.at source).start)

def mergeCount (nodes : Nodes) : Nat :=
  nodes.foldl (fun n node =>
    match node.content with
    | .mapping entries => n + (entries.filter (isMergeKey nodes)).length
    | _ => n) 0

def resolveMerges (id : Nat) (nodes : Nodes) : Except Fault Nodes :=
  mergeFrom (mergeCount nodes + 1) id 0 [] nodes

end HatReel.Yaml
