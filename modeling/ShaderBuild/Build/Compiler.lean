import ShaderBuild.Build.Dispatch
import ShaderBuild.Directive.Parser

/-! # Compilers

A compiler has a build root and backends. It reads directives, settles the language of the source and
hands the request on.
-/

namespace ShaderBuild

/-- A build root with the backends that serve it. -/
structure Compiler (σ : Type) where
  root : BuildRoot
  backends : List (Backend σ)

namespace Compiler

variable {σ : Type}

/-- The language of a source without a language directive: the one that the suffix of its file names,
    else GLSL if some backend takes it, else WGSL. -/
def guess (backends : List (Backend σ)) (config : Config) (origin? : Option String) : Language :=
  let named := (origin?.map fun origin => Language.ofSuffix (Path.ofString origin)).getD .unknown
  if named ≠ .unknown then named
  else if backends.any fun backend => backend.accepts (config.withLanguage .glsl) then .glsl
  else .wgsl

/-- A config whose language is settled. A language directive wins. -/
def settle (backends : List (Backend σ)) (config : Config) (origin? : Option String) : Config :=
  if config.language ≠ .unknown then config
  else config.withLanguage (guess backends config origin?)

/-- The request for a source with a parsed config, if its include directories can be told. -/
def request? (compiler : Compiler σ) (source : String) (origin? : Option String) (config : Config) :
    Option Request :=
  (compiler.root.searchPath? config.includeDirs).map fun searchPath =>
    { source, origin?, searchPath, config := settle compiler.backends config origin? }

/-- Compile a source with a parsed config. -/
def compile (compiler : Compiler σ) (source : String) (origin? : Option String) (config : Config) :
    Action σ Feedback :=
  match compiler.request? source origin? config with
  | some request => dispatch compiler.backends request
  | none => throw .rootless

/-- The config that directives make of the defaults. -/
def configOf (directives : DirectiveSource) : Action σ Config :=
  Action.ofRequest ((Directive.parseConfig {} directives).mapError .directives)

def readSource (path : Path) : Action σ String := do
  let shown := path.toString
  match (← get).tree.read shown with
  | .error .nul => throw (.access .nul)
  | .error (.system fault) => Action.refuse (.unreadableSource shown fault.message)
  | .ok bytes =>
    match Text.Utf8.decode bytes with
    | .error fault => Action.refuse (.unreadableSource shown fault.message)
    | .ok text => return String.ofList (Text.universalNewlines text)

/-- Compile a source that is no file. -/
def compileInline (compiler : Compiler σ) (source : String) (directives : DirectiveSource) :
    Action σ Feedback := do
  let config ← configOf directives
  compiler.compile source none config

/-- Compile a file below the build root. -/
def compileFile (compiler : Compiler σ) (path : String) (directives : DirectiveSource) :
    Action σ Feedback := do
  let config ← configOf directives
  match compiler.root.resolve? path with
  | some full =>
    let source ← readSource full
    compiler.compile source (some full.toString) config
  | none => throw .rootless

end Compiler

end ShaderBuild
