import ShaderBuild.Config.Language
import ShaderBuild.Config.Target

/-! # Compilation configs

Everything a backend needs to know besides the source text.
-/

namespace ShaderBuild

/-- How hard a backend should optimise. -/
inductive Optimization where
  | none
  | minSize
  | maxPerformance
  deriving Repr, DecidableEq

def Optimization.word : Optimization → String
  | .none => "none"
  | .minSize => "min_size"
  | .maxPerformance => "max_perf"

def Optimization.all : List Optimization := [.none, .minSize, .maxPerformance]

/-- A macro and its value; a macro without a value is not the same as one with an empty value. -/
abbrev Define := String × Option String

/-- One compilation request, its source left aside. -/
structure Config where
  language : Language := .unknown
  stage : Stage := .unknown
  includeDirs : List String := []
  defines : List Define := []
  environment : Environment := .vulkan
  version : SpirvVersion := .v1_0
  entryPoint : String := "main"
  optimization : Optimization := .none
  debugInfo : Bool := true
  autoBindUniforms : Bool := false
  /-- Only WGSL honours it. -/
  flipVertical : Bool := true
  deriving Repr, DecidableEq

namespace Config

/-- The target of a config, if its interface and version make a valid pair. -/
def target? (config : Config) : Option Target := Target.ofPair? config.environment config.version

def withTarget (config : Config) (target : Target) : Config :=
  { config with environment := target.environment, version := target.version }

def withLanguage (config : Config) (language : Language) : Config := { config with language }

end Config

end ShaderBuild
