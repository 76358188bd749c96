import ShaderBuild.Path
import ShaderBuild.Text.Lowercase

/-! # Languages and stages

What a shader is written in and which stage of a pipeline it is for, and what the suffix of a file
says about either.
-/

namespace ShaderBuild

/-- The language of a shader's source. -/
inductive Language where
  /-- Not said; settled before a backend is asked. -/
  | unknown
  | glsl
  | hlsl
  | wgsl
  /-- Textual SPIR-V. -/
  | assembly
  deriving Repr, DecidableEq

namespace Language

def word : Language → String
  | .unknown => "unknown"
  | .glsl => "glsl"
  | .hlsl => "hlsl"
  | .wgsl => "wgsl"
  | .assembly => "spvasm"

def all : List Language := [.unknown, .glsl, .hlsl, .wgsl, .assembly]

/-- The languages that a directive can name. -/
def named : List Language := [.glsl, .hlsl, .wgsl, .assembly]

end Language

/-- The pipeline stage that a shader is compiled for. -/
inductive Stage where
  | unknown
  | vertex
  | tessControl
  | tessEvaluation
  | geometry
  | fragment
  | compute
  | mesh
  | task
  | rayGeneration
  | intersection
  | anyHit
  | closestHit
  | miss
  | callable
  deriving Repr, DecidableEq

namespace Stage

def word : Stage → String
  | .unknown => "unknown"
  | .vertex => "vert"
  | .tessControl => "tesc"
  | .tessEvaluation => "tese"
  | .geometry => "geom"
  | .fragment => "frag"
  | .compute => "comp"
  | .mesh => "mesh"
  | .task => "task"
  | .rayGeneration => "rgen"
  | .intersection => "rint"
  | .anyHit => "rahit"
  | .closestHit => "rchit"
  | .miss => "rmiss"
  | .callable => "rcall"

/-- The stages that a directive can name. -/
def named : List Stage :=
  [.vertex, .tessControl, .tessEvaluation, .geometry, .fragment, .compute, .mesh, .task,
   .rayGeneration, .intersection, .anyHit, .closestHit, .miss, .callable]

def all : List Stage := .unknown :: named

def ofWord? (word : String) : Option Stage := named.find? fun stage => stage.word = word

end Stage

/-- The suffix of a path in lower case, with its dot. -/
def lowerSuffix (path : Path) : String := String.ofList (Text.lower path.suffix.toList)

/-- The stage that a path's suffix names, if it names one. -/
def Stage.ofSuffix? (path : Path) : Option Stage :=
  match (lowerSuffix path).toList with
  | _ :: word => Stage.ofWord? (String.ofList word)
  | [] => none

/-- The language that a path's suffix names, else unknown. The suffix of a stage stands for GLSL. -/
def Language.ofSuffix (path : Path) : Language :=
  let suffix := lowerSuffix path
  if suffix = ".wgsl" then .wgsl
  else if suffix = ".hlsl" ∨ suffix = ".fx" then .hlsl
  else if suffix = ".spvasm" then .assembly
  else if suffix = ".glsl" then .glsl
  else if (Stage.ofSuffix? path).isSome then .glsl
  else .unknown

end ShaderBuild
