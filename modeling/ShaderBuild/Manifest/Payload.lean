import ShaderBuild.Manifest.LoadFault
import ShaderBuild.Manifest.Schema

/-! # From values to manifests

The variables that a manifest defines are put in place of their placeholders before its shape is checked; a
manifest that defines none is taken as it is.
-/

namespace ShaderBuild.Manifest

/-- The manifest that a value makes in which nothing is left to be replaced. -/
def validate (value : Value) : Except LoadFault Manifest :=
  (check value).mapError fun problems =>
    .invalid (problems.map fun problem => ⟨problem, (value.at? problem.subject).getD .null⟩)

/-- The name of the entry that defines variables. -/
def variablesKey : Value := .str "vars"

/-- Whether a key is the name of the entry that defines variables. -/
def isVariables (key : Value) : Bool := key.sameKey variablesKey

/-- Replace the placeholders of a value. Nothing is known of the variables yet. -/
def substituteAll (vars : Variables) (value : Value) : Except LoadFault Value :=
  ((vars.substitute usualRoom value).run.run []).1.mapError .expansion

/-- Put the variables that a mapping defines in place of their placeholders. -/
def expandVariables (entries : List (Value × Value)) : Except LoadFault Value :=
  let others := entries.filter fun entry => !isVariables entry.1
  match Value.getKey? variablesKey entries with
  | none | some .null => .ok (.map others)
  | some (.map vars) => substituteAll ⟨vars⟩ (.map others)
  | some value => .error (.variablesNotMapping value.qualifiedKind)

def ofValue : Value → Except LoadFault Manifest
  | .null => .error .empty
  | .map entries => do validate (← expandVariables entries)
  | value => .error (.notMapping value.qualifiedKind)

end ShaderBuild.Manifest
