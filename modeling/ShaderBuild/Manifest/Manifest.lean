import ShaderBuild.Artifact.Format
import ShaderBuild.Text.Blank

/-! # Manifests

The shaders of a build, each with its source and its directives, and the settings they share.
-/

namespace ShaderBuild

/-- Directives as a manifest gives them. -/
inductive DirectiveSetting where
  | text (text : String)
  | items (items : List String)
  deriving Repr, DecidableEq

/-- The list of directive texts that is meant. A blank text means none. -/
def DirectiveSetting.toList : DirectiveSetting → List String
  | .text single => if (Text.trim single.toList).isEmpty then [] else [single]
  | .items several => several

/-- What the shaders of a manifest share. -/
structure Defaults where
  format : Format := .python
  outDir : String := "generated"
  directives : DirectiveSetting := .text ""
  deriving Repr, DecidableEq

/-- A shader of a manifest: its source is a file or stands in the manifest itself. -/
structure Shader where
  name : String
  source? : Option String
  inline? : Option String
  directives : DirectiveSetting := .text ""
  format? : Option Format := none
  deriving Repr, DecidableEq

/-- The directives of a shader after the ones that all shaders share, so that its own prevail. -/
def Shader.directiveList (shader : Shader) (defaults : Defaults) : List String :=
  defaults.directives.toList ++ shader.directives.toList

/-- A manifest. -/
structure Manifest where
  version : Int
  defaults : Defaults := {}
  shaders : List Shader
  deriving Repr, DecidableEq

end ShaderBuild
