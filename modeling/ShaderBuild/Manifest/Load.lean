import ShaderBuild.Config.Language
import ShaderBuild.Json.Reader
import ShaderBuild.Manifest.Cyclic
import ShaderBuild.Yaml.Reader

/-! # Loading manifests

A manifest is a JSON or YAML file; the suffix of its name says which. Any reader of YAML will do.
-/

namespace ShaderBuild.Manifest

def readText (tree : FileTree) (path : Path) : Except LoadFault (List Char) := do
  let bytes ← (tree.read path.toString).mapError .access
  let text ← (Text.Utf8.decode bytes).mapError .encoding
  return Text.universalNewlines text

abbrev YamlReader := List Char → Except Yaml.Fault Yaml.Document

/-- The manifest that a text makes, in the format that the suffix of its file names. -/
def ofText (readYaml : YamlReader) (suffix : String) (text : List Char) : Except LoadFault Manifest :=
  if suffix = ".json" then do ofValue (← (Json.read text).mapError .json)
  else if suffix = ".yml" ∨ suffix = ".yaml" then do ofDocument (← (readYaml text).mapError .yaml)
  else .error (.suffix suffix)

def loadWith (readYaml : YamlReader) (tree : FileTree) (path : Path) : Except LoadFault Manifest := do
  let text ← readText tree path
  ofText readYaml (lowerSuffix path) text

def load (tree : FileTree) (path : Path) : Except LoadFault Manifest := loadWith Yaml.read tree path

end ShaderBuild.Manifest
