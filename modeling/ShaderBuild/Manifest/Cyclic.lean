import ShaderBuild.Manifest.Payload
import ShaderBuild.Yaml.Document

/-! # Manifests that hold themselves

By an alias a manifest can stand within itself, as its own defaults or variables say. The check of its
shape looks at a few levels only and does not mind; replacing placeholders has no end if it comes to where a
value returns. The entry that defines the variables is gone from the manifest wherever it stands.
-/

namespace ShaderBuild.Manifest

/-- The value at the end of a path through a document. -/
def documentValue? (document : Yaml.Document) : KeyPath → Yaml.Datum → Option Value
  | [], datum => some (document.tree datum)
  | path, .leaf value => value.at? path
  | key :: path, .object id =>
    match document.object id, key with
    | .map entries, .name name => do
      let (_, datum) ← entries.find? fun entry => entry.1.sameKey (.str name)
      documentValue? document path datum
    | .list items, .index position => do documentValue? document path (← items[position.toNat]?)
    | _, _ => (document.tree (.object id)).at? (key :: path)

/-- More levels than the shape of a manifest has. -/
def shapeDepth : Nat := 8

/-- The manifest that a document makes in which nothing is left to be replaced. -/
def validateDocument (document : Yaml.Document) : Except LoadFault Manifest :=
  (check (document.unrolled shapeDepth document.root)).mapError fun problems =>
    .invalid (problems.map fun problem =>
      ⟨problem, (documentValue? document problem.subject document.root).getD .null⟩)

/-- The manifest that an object of a document makes, given its entries. -/
def ofEntries (document : Yaml.Document) (id : Yaml.ObjectId) (entries : List (Value × Yaml.Datum)) :
    Except LoadFault Manifest :=
  let document := document.withObject id (.map (entries.filter fun entry => !isVariables entry.1))
  let vars? : Option Yaml.Datum := (entries.find? fun entry => isVariables entry.1).map (·.2)
  match vars? with
  | none | some (.leaf .null) => validateDocument document
  | some datum =>
    match datum, document.tree datum with
    | .object vars, .map _ =>
      let found : List (Value × Value) :=
        match document.object vars with
        | .map entries => entries.map fun (key, datum) => (key, document.copy datum)
        | _ => []
      do validate (← substituteAll ⟨found⟩ (document.copy document.root))
    | _, value => .error (.variablesNotMapping value.qualifiedKind)

def ofDocument (document : Yaml.Document) : Except LoadFault Manifest :=
  match document.value?, document.root with
  | some value, _ => ofValue value
  | none, .leaf value => ofValue value
  | none, .object id =>
    match document.object id with
    | .map entries => ofEntries document id entries
    | _ => .error (.notMapping (document.tree document.root).qualifiedKind)

end ShaderBuild.Manifest
