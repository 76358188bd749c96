import ShaderBuild.Yaml.Document
import ShaderBuild.Yaml.Merge
import ShaderBuild.Yaml.ScalarValue
import ShaderBuild.Yaml.SetOrder

/-! # Reading YAML texts

A text holds one document. Its nodes become values from the outermost one inwards: a scalar becomes a
value when it is met, a collection becomes an empty object and is filled in its turn. So of several
faults the one that comes first in this order shows.
-/

namespace ShaderBuild.Yaml

/-- How far the nodes of a document have become values. -/
structure Construction where
  graph : Graph
  /-- What the nodes that were met have become. -/
  made : Array (Option Datum)
  /-- The collections in the order in which they were met. -/
  met : Array NodeId
  objects : Array Object

/-- A computation that makes values of nodes. -/
abbrev Construct := StateT Construction (Except Fault)

namespace Construct

def refuse {α : Type} : Construct α := throw .malformed

/-- Whether a kind is one of scalars. -/
def isScalarKind : Kind → Bool
  | .null | .bool | .int | .float | .timestamp | .binary | .text => true
  | _ => false

/-- Whether a kind is one of collections. -/
def isCollectionKind : Kind → Bool
  | .sequence | .mapping | .set | .orderedMap | .pairs => true
  | _ => false

/-- The text of a node that is to be a scalar. A mapping has the text of the entry that stands for it.
    The fuel is more than the number of nodes. -/
def text (graph : Graph) : Nat → NodeId → Except Fault String
  | 0, _ => .error .endless
  | fuel + 1, id =>
    match (graph.node id).content with
    | .scalar text => .ok text
    | .sequence _ => .error .malformed
    | .mapping entries =>
      match entries.find? fun entry => graph.isOf .standIn entry.1 with
      | some (_, value) => text graph fuel value
      | none => .error .malformed

/-- The value of a node that is to be a scalar. Dates are not given by mappings. -/
def leaf (graph : Graph) (id : NodeId) : Except Fault Value := do
  let kind := (graph.node id).kind
  if isScalarKind kind then
    let found ← text graph (graph.size + 1) id
    if kind = .timestamp ∧ graph.isMapping id then .error .mappedMoment else Scalar.value kind found
  else .error .malformed

def note (id : NodeId) (datum : Datum) : Construct Unit :=
  modify fun state => { state with made := state.made.setIfInBounds id (some datum) }

def datum (id : NodeId) : Construct Datum := do
  let state ← get
  match state.made.getD id none with
  | some datum => return datum
  | none =>
    if isCollectionKind (state.graph.node id).kind then
      modify fun state => { state with met := state.met.push id }
      note id (.object id)
      return .object id
    else
      let value ← (leaf state.graph id : Except Fault Value)
      note id (.leaf value)
      return .leaf value

/-- A key of a mapping. -/
structure Key where
  value : Value
  /-- The node that a key comes from; there is no telling for the plain word for what is no number. -/
  source? : Option NodeId
  deriving Repr

/-- Whether two keys are one key. What is no number equals nothing, but it is one key with itself. -/
def Key.same (a b : Key) : Bool :=
  a.value.sameKey b.value ||
    match a.value, b.value with
    | .float x, .float y => Value.isNaN x && Value.isNaN y && a.source? == b.source?
    | _, _ => false

/-- The key that a node becomes. Collections are no keys. -/
def key (id : NodeId) : Construct Key := do
  match ← datum id with
  | .object _ => refuse
  | .leaf value =>
    let graph := (← get).graph
    let isPlainNaN :=
      match text graph (graph.size + 1) id with
      | .ok found => Scalar.isPlainNaN found
      | .error _ => false
    return ⟨value, if isPlainNaN then none else some id⟩

/-- Set a key. A key that is there keeps its place and its spelling. -/
def setKey (key : Key) (item : Datum) : List (Key × Datum) → List (Key × Datum)
  | [] => [(key, item)]
  | (k, d) :: rest => if k.same key then (k, item) :: rest else (k, d) :: setKey key item rest

/-- The entries of a node that is to be a mapping, the merged ones among them. The last value of a key
    counts. -/
def entries (id : NodeId) : Construct (List (Value × Datum)) := do
  let state ← get
  if state.graph.isMapping id then
    let ((), graph) ← (Merging.absorb (state.graph.entryCount + 1) id).run state.graph
    set { state with graph }
    let found ← (graph.entries id).foldlM (fun before (keyNode, itemNode) => do
      let key ← key keyNode
      let item ← datum itemNode
      return setKey key item before) []
    return found.map fun (key, item) => (key.value, item)
  else refuse

/-- The items of a node that is to be a sequence. -/
def items (id : NodeId) : Construct (List NodeId) := do
  match ((← get).graph.node id).content with
  | .sequence items => return items
  | _ => refuse

/-- The pair that a node with a single entry becomes. It is an object of its own. -/
def pair (id : NodeId) : Construct Datum := do
  match ((← get).graph.node id).content with
  | .mapping [(key, item)] =>
    let pair := Object.tuple [← datum key, ← datum item]
    let id := (← get).objects.size
    modify fun state => { state with objects := state.objects.push pair }
    return .object id
  | _ => refuse

def object (id : NodeId) : Construct Object := do
  match ((← get).graph.node id).kind with
  | .sequence => return .list (← (← items id).mapM datum)
  | .mapping => return .map (← entries id)
  | .set => return .set (setOrder ((← entries id).map (·.1)))
  | .orderedMap | .pairs => return .list (← (← items id).mapM pair)
  | _ => refuse

/-- Fill the collections in the order in which they were met, from a position on. The fuel is more than
    the number of nodes. -/
def fillFrom : Nat → Nat → Construct Unit
  | 0, _ => return ()
  | fuel + 1, position => do
    match (← get).met[position]? with
    | none => return ()
    | some id =>
      let object ← object id
      modify fun state => { state with objects := state.objects.setIfInBounds id object }
      fillFrom fuel (position + 1)

/-- The document that a root and its collections become. -/
def document (root : NodeId) : Construct Document := do
  let datum ← datum root
  fillFrom ((← get).graph.size + 1) 0
  return ⟨(← get).objects, datum⟩

end Construct

def Composition.document (composition : Composition) : Except Fault Document := do
  let graph := composition.graph
  let start : Construction := ⟨graph, Array.replicate graph.size none, #[], Array.replicate graph.size default⟩
  return (← (Construct.document composition.root).run start).1

/-- Read a text that holds at most one document. No document stands for nothing. -/
def read (text : List Char) : Except Fault Document := do
  match ← composition? (tokens text) with
  | none => return ⟨#[], .leaf .null⟩
  | some composition => composition.document

end ShaderBuild.Yaml
