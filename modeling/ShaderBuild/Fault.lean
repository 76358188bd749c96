import ShaderBuild.Config.BuildRoot
import ShaderBuild.Config.Plan
import ShaderBuild.Directive.SyntaxError
import ShaderBuild.Files.Tree
import ShaderBuild.Include.Include
import ShaderBuild.Text.Utf8

/-! # Faults of a build

A request is refused for a reason that concerns the shader, its settings or its compilers. Everything
else that can stop a build is a fault of the place where it runs or of the caller.
-/

namespace ShaderBuild

/-- Why an include cannot be taken in. -/
inductive IncludeProblem where
  /-- A relative include in a source that is no file. -/
  | noDirectory
  | unreadable (path reason : String)
  /-- No directory holds the file. -/
  | notFound (searched : List String)
  deriving Repr, DecidableEq

/-- An include that cannot be taken in. -/
structure IncludeError where
  wanted : Include
  problem : IncludeProblem
  deriving Repr, DecidableEq

def IncludeError.message (e : IncludeError) : String :=
  match e.problem with
  | .noDirectory =>
    s!"cannot include \"{e.wanted.name}\": the shader source is not living in a filesystem, but " ++
      "attempts to include a relative path"
  | .unreadable path reason => s!"cannot read from \"{path}\": {reason}"
  | .notFound searched =>
    let dirs := searched.map fun dir => "\"" ++ dir ++ "\""
    let listed := if dirs.isEmpty then "(none)" else ", ".intercalate dirs
    s!"cannot find \"{e.wanted.name}\" in include directories: {listed}"

/-- Why a request is refused. -/
inductive RequestError where
  | directives (e : Directive.SyntaxError)
  | unsupportedLanguage (language : Language) (backends : List String)
  | badTarget (pair : Config.BadPair)
  /-- The compiler at hand does not know the target. -/
  | unknownTarget (program : String) (target : Target)
  | inclusion (e : IncludeError)
  /-- What a backend has to say against the shader. -/
  | backend (name diagnostic : String)
  | missingRoot
  | unreadableSource (path reason : String)
  deriving Repr, DecidableEq

def RequestError.message : RequestError → String
  | .directives e => e.message
  | .unsupportedLanguage language backends =>
    let listed := ", ".intercalate backends
    let available := if listed.isEmpty then "none" else listed
    s!"no available backend compiles {language.word} (available backends: {available})"
  | .badTarget pair => pair.message
  | .unknownTarget program target => s!"{program} cannot target {target.describe}"
  | .inclusion e => e.message
  | .backend name diagnostic => s!"[{name}] {diagnostic}"
  | .missingRoot => BuildRoot.missingMessage
  | .unreadableSource path reason => s!"cannot read shader source \"{path}\": {reason}"

/-- What stops a build. -/
inductive Fault where
  /-- A refused request, with notes on what was tried before. -/
  | refused (error : RequestError) (notes : List String)
  | access (fault : AccessFault)
  | encoding (fault : Text.Utf8.Fault)
  /-- A number that is no word was to be stored. -/
  | unstorable
  /-- A path without a name was to be given another name. -/
  | nameless (path : Path)
  /-- A shader has no source. -/
  | sourceless (shader : String)
  /-- Something was looked for below a root that was taken back. -/
  | rootless
  /-- A fault of a kind that only some backend knows. -/
  | foreign (kind text : String)
  deriving Repr, DecidableEq

/-- The text of a fault; a number that cannot be stored has none of its own. -/
def Fault.message : Fault → String
  | .refused error _ => error.message
  | .access fault => fault.message
  | .encoding fault => fault.message
  | .unstorable => "a word has to be between 0 and 4294967295"
  | .nameless path => s!"PosixPath({Text.quoted path.toString}) has an empty name"
  | .sourceless shader => s!"shader {Text.quoted shader} has neither source nor inline text"
  | .rootless => "nothing lies below a build root that was taken back"
  | .foreign _ text => text

def RequestError.fault (error : RequestError) : Fault := .refused error []

end ShaderBuild
