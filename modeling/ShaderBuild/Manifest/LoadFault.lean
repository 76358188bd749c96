import ShaderBuild.Files.Tree
import ShaderBuild.Json.Mistake
import ShaderBuild.Manifest.Finding
import ShaderBuild.Manifest.Variables
import ShaderBuild.Text.Utf8
import ShaderBuild.Yaml.Fault

/-! # Faults of loading a manifest

A manifest cannot be loaded because of its file, the text in it, the variables it uses or the shape it has.
-/

namespace ShaderBuild.Manifest

/-- Why a manifest cannot be loaded. -/
inductive LoadFault where
  | access (fault : AccessFault)
  | encoding (fault : Text.Utf8.Fault)
  | json (fault : Json.Fault)
  | yaml (fault : Yaml.Fault)
  /-- The suffix of the file names no format. -/
  | suffix (suffix : String)
  | empty
  /-- The manifest is a value of another kind than a mapping. -/
  | notMapping (kind : String)
  /-- The variables are a value of another kind than a mapping. -/
  | variablesNotMapping (kind : String)
  | expansion (fault : ExpansionFault)
  | invalid (findings : List Finding)
  deriving Repr

/-- The text of a fault. A manual may explain what is found wrong with the shape of a manifest. -/
def LoadFault.message (fault : LoadFault) (manual? : Option String) : String :=
  match fault with
  | .access fault => fault.message
  | .encoding fault => fault.message
  | .json fault => fault.message
  | .yaml fault => fault.message
  | .suffix found => s!"Unsupported format '{found}'"
  | .empty => "Manifest payload is empty."
  | .notMapping kind => s!"Manifest payload must be a dict, got <class '{kind}'>"
  | .variablesNotMapping kind => s!"Manifest vars must be a dict, got <class '{kind}'>"
  | .expansion fault => fault.message
  | .invalid findings => findingsText manual? findings

end ShaderBuild.Manifest
