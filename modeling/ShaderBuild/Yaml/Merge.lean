import ShaderBuild.Yaml.Node

/-! # Merged mappings

An entry whose key is of the merging kind is no entry of its mapping: it brings in the entries of other
mappings, which in turn take in what they merge. Mappings may merge each other in a circle, so an entry is
taken out of its mapping before what it names is looked at.
-/

namespace ShaderBuild.Yaml

namespace Graph

def node (graph : Graph) (id : NodeId) : Node := graph.getD id default

def entries (graph : Graph) (id : NodeId) : List Entry :=
  match (graph.node id).content with
  | .mapping entries => entries
  | _ => []

/-- Whether a node is written as a mapping. -/
def isMapping (graph : Graph) (id : NodeId) : Bool :=
  match (graph.node id).content with
  | .mapping _ => true
  | _ => false

/-- Whether a node is of a kind. -/
def isOf (graph : Graph) (kind : Kind) (id : NodeId) : Bool := (graph.node id).kind == kind

def withEntries (graph : Graph) (id : NodeId) (entries : List Entry) : Graph :=
  graph.modify id fun node => { node with content := .mapping entries }

/-- Take the first entry that merges out of a mapping: the node that it names, and what is left. -/
def takeMerge? (graph : Graph) (id : NodeId) : Option (NodeId × Graph) :=
  let merges (entry : Entry) : Bool := graph.isOf .merge entry.1
  let entries := graph.entries id
  (entries.find? merges).map fun entry => (entry.2, graph.withEntries id (entries.eraseP merges))

/-- The mappings that are merged by naming a node: the node itself, or the items of a sequence. -/
def merged? (graph : Graph) (id : NodeId) : Option (List NodeId) :=
  match (graph.node id).content with
  | .mapping _ => some [id]
  | .sequence items => if items.all graph.isMapping then some items else none
  | .scalar _ => none

/-- Let the keys of a mapping that could stand for the whole of it be plain texts. -/
def settleKeys (graph : Graph) (id : NodeId) : Graph :=
  (graph.entries id).foldl (fun graph entry =>
    if graph.isOf .standIn entry.1 then graph.modify entry.1 fun node => { node with kind := .text }
    else graph) graph

/-- The number of entries of all mappings. -/
def entryCount (graph : Graph) : Nat :=
  graph.foldl (fun count node =>
    match node.content with
    | .mapping entries => count + entries.length
    | _ => count) 0

end Graph

/-- A computation that moves entries between mappings. -/
abbrev Merging := StateT Graph (Except Fault)

namespace Merging

/-- Put the entries that `gather` finds for a mapping before its own ones. -/
def absorbBy (gather : NodeId → Merging (List Entry)) (id : NodeId) : Merging Unit := do
  let found ← gather id
  modify fun graph => (graph.settleKeys id).withEntries id (found ++ graph.entries id)

/-- Take all entries that merge out of a mapping and gather what they bring in. Of several mappings
    that one entry names the first comes last, so that it prevails. The fuel is more than the number of
    entries that merge. -/
def gather : Nat → NodeId → Merging (List Entry)
  | 0, _ => return []
  | fuel + 1, id => do
    match (← get).takeMerge? id with
    | none => return []
    | some (named, graph) =>
      set graph
      match graph.merged? named with
      | none => throw .malformed
      | some sources =>
        let groups ← sources.mapM fun source => do
          absorbBy (gather fuel) source
          return (← get).entries source
        let others ← gather fuel id
        return groups.reverse.flatten ++ others

/-- Let a mapping hold the entries that it merges. The fuel is more than the number of all entries. -/
def absorb (fuel : Nat) (id : NodeId) : Merging Unit := absorbBy (gather fuel) id

end Merging

end ShaderBuild.Yaml
