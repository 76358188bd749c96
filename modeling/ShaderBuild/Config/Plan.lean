import ShaderBuild.Config.Config
import ShaderBuild.Value

/-! # Plans

What a directive list comes down to, as lines for a reader.
-/

namespace ShaderBuild.Config

/-- An interface and a version that make no valid pair. -/
structure BadPair where
  environment : Environment
  version : SpirvVersion
  deriving Repr, DecidableEq

/-- The text for a bad pair lists the valid targets. -/
def BadPair.message (pair : BadPair) : String :=
  s!"unsupported target: {pair.environment.word} with SPIR-V {pair.version.label}; valid targets " ++
    "are " ++ ", ".intercalate (Target.all.map Target.describe)

/-- The target of an interface and a version. -/
def pairTarget (environment : Environment) (version : SpirvVersion) : Except BadPair Target :=
  match Target.ofPair? environment version with
  | some target => .ok target
  | none => .error ⟨environment, version⟩

def target (config : Config) : Except BadPair Target := pairTarget config.environment config.version

def numbered (label : String) (items : List String) : List String :=
  items.mapIdx fun index item => s!"  {label}[{index}]={item}"

/-- A macro as a plan shows it. -/
def defineText : Define → String
  | (name, none) => name
  | (name, some value) => s!"{name}={value}"

/-- The lines of a plan for a config with a given target. -/
def planLines (name : String) (config : Config) (target : Target) : List String :=
  [s!"- shader={name}",
    s!"  language={config.language.word} stage={config.stage.word}",
    s!"  target={target.describe}",
    s!"  entry={config.entryPoint} optimization={config.optimization.word}",
    s!"  debug={Value.boolText config.debugInfo} auto_bind={Value.boolText config.autoBindUniforms} " ++
      s!"y_flip={Value.boolText config.flipVertical}"] ++
    numbered "include_dirs" config.includeDirs ++ numbered "defines" (config.defines.map defineText)

def plan (name : String) (config : Config) : Except BadPair String := do
  let target ← config.target
  return "\n".intercalate (config.planLines name target)

end ShaderBuild.Config
