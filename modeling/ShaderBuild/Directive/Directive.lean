import ShaderBuild.Config.Config
import ShaderBuild.Directive.Token

/-! # Directives

One directive changes one setting of a config. Scalar settings go by the last directive that names
them; include directories and macros are collected in order.
-/

namespace ShaderBuild

/-- The directives that are a single word. -/
inductive Flag where
  | language (language : Language)
  | stage (stage : Stage)
  | target (target : Target)
  | minSize
  | maxPerformance
  | noDebug
  | autoBind
  | noFlip
  deriving Repr, DecidableEq

namespace Flag

/-- The words that are neither language nor stage nor target. -/
def optionWords : List (String × Flag) :=
  [("min_size", .minSize), ("max_perf", .maxPerformance), ("no_debug", .noDebug),
   ("auto_bind", .autoBind), ("no_y_flip", .noFlip)]

/-- Every word with the flag it stands for. -/
def words : List (String × Flag) :=
  Language.named.map (fun language => (language.word, .language language)) ++
    Stage.named.map (fun stage => (stage.word, .stage stage)) ++
    Target.words.map (fun (word, named) => (word, .target named)) ++ optionWords

/-- The flag that a word stands for. -/
def ofWord? (word : String) : Option Flag := words.lookup word

def apply (config : Config) : Flag → Config
  -- Some compilers refuse HLSL without optimisation.
  | .language .hlsl => { config with language := .hlsl, optimization := .maxPerformance }
  | .language chosen => { config with language := chosen }
  | .stage chosen => { config with stage := chosen }
  | .target chosen => config.withTarget chosen
  | .minSize => { config with optimization := .minSize }
  | .maxPerformance => { config with optimization := .maxPerformance }
  | .noDebug => { config with debugInfo := false }
  | .autoBind => { config with autoBindUniforms := true }
  | .noFlip => { config with flipVertical := false }

end Flag

/-- A directive. -/
inductive Directive where
  | flag (flag : Flag)
  | includeDir (dir : String)
  | define (name : String) (value : Option String)
  | entryPoint (name : String)
  deriving Repr, DecidableEq

namespace Directive

def apply (config : Config) : Directive → Config
  | .flag chosen => chosen.apply config
  | .includeDir dir => { config with includeDirs := config.includeDirs ++ [dir] }
  | .define name value => { config with defines := config.defines ++ [(name, value)] }
  | .entryPoint name => { config with entryPoint := name }

/-- Set what a list of directives says, one after another. -/
def applyAll (config : Config) (directives : List Directive) : Config := directives.foldl apply config

end Directive

end ShaderBuild
