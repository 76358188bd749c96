import ShaderBuild.Value
import ShaderBuild.Yaml.Node

/-! # Documents of YAML texts

What the nodes of a text have become: scalars are values, and every collection is an object that other
objects refer to by number. An object can refer to itself, directly or through others. A document in which
none does is a plain value; of the others there are views that are cut off where an object comes up inside
itself, and one that goes down to a given depth.
-/

namespace ShaderBuild.Yaml

/-- The number of an object. The object that a node becomes has the number of the node. -/
abbrev ObjectId := Nat

/-- What a node has become. -/
inductive Datum where
  | leaf (value : Value)
  | object (id : ObjectId)
  deriving Repr

instance : Inhabited Datum := ⟨.leaf .null⟩

/-- A collection. -/
inductive Object where
  | list (items : List Datum)
  | map (entries : List (Value × Datum))
  | set (items : List Value)
  | tuple (items : List Datum)
  deriving Repr

instance : Inhabited Object := ⟨.list []⟩

/-- A document. -/
structure Document where
  /-- The objects by number. -/
  objects : Array Object
  root : Datum
  deriving Repr

namespace Object

/-- The value that stands for an object where it comes up inside itself. Sets cannot. -/
def again : Object → Value
  | .list _ | .set _ => .again .list
  | .map _ => .again .map
  | .tuple _ => .again .tuple

/-- The value that an object is once its members are values. -/
def valueBy {m : Type → Type} [Monad m] (member : Datum → m Value) : Object → m Value
  | .list items => do return .list (← items.mapM member)
  | .map entries => do return .map (← entries.mapM fun (key, item) => do return (key, ← member item))
  | .set items => return .set items
  | .tuple items => do return .tuple (← items.mapM member)

end Object

namespace Document

def object (document : Document) (id : ObjectId) : Object := document.objects.getD id default

def withObject (document : Document) (id : ObjectId) (object : Object) : Document :=
  { document with objects := document.objects.setIfInBounds id object }

/-- The number of objects, which bounds the nesting unless an object is inside itself. -/
def size (document : Document) : Nat := document.objects.size

/-- The values that objects have turned out to be. -/
abbrev Assembly := StateT (Array (Option Value)) Option

/-- Assemble the value of a datum. Every object is assembled once. The fuel bounds the nesting. -/
def assemble (document : Document) : Nat → Datum → Assembly Value
  | _, .leaf value => return value
  | 0, .object _ => failure
  | fuel + 1, .object id => do
    match (← get).getD id none with
    | some value => return value
    | none =>
      let value ← (document.object id).valueBy (document.assemble fuel)
      modify fun made => made.setIfInBounds id (some value)
      return value

/-- The value of a document in which no object is inside itself. -/
def value? (document : Document) : Option Value :=
  ((document.assemble document.size document.root).run
    (Array.replicate document.size none)).map (·.1)

/-- The value of a datum with the objects of `around` around it. The fuel bounds the nesting. -/
def treeWithin (document : Document) : Nat → List ObjectId → Datum → Value
  | _, _, .leaf value => value
  | 0, _, .object id => (document.object id).again
  | fuel + 1, around, .object id =>
    if around.contains id then (document.object id).again
    else Id.run ((document.object id).valueBy fun datum => document.treeWithin fuel (id :: around) datum)

/-- The value of a datum, cut off where one of its objects comes up inside itself. -/
def tree (document : Document) (datum : Datum) : Value :=
  document.treeWithin (document.size + 1) [] datum

/-- The value of a datum of which all but the tuples are new, with the objects of `around` around it. The
    fuel bounds the nesting. -/
def copyWithin (document : Document) : Nat → List ObjectId → Datum → Value
  | _, _, .leaf value => value
  | 0, _, .object id => (document.object id).again
  | fuel + 1, around, .object id =>
    match document.object id with
    | .tuple _ => document.tree (.object id)
    | object =>
      if around.contains id then object.again
      else Id.run (object.valueBy fun datum => document.copyWithin fuel (id :: around) datum)

/-- The value of a datum of which all but the tuples are new. Within a tuple nothing that is around it comes
    up again, since the objects around it are new ones. -/
def copy (document : Document) (datum : Datum) : Value :=
  document.copyWithin (document.size + 1) [] datum

/-- The value of a datum down to a number of levels, however its objects refer to each other. -/
def unrolled (document : Document) : Nat → Datum → Value
  | _, .leaf value => value
  | 0, .object id => (document.object id).again
  | depth + 1, .object id =>
    Id.run ((document.object id).valueBy fun datum => document.unrolled depth datum)

end Document

end ShaderBuild.Yaml
