import ShaderBuild.Session
import ShaderBuild.Spirv.Module

/-! # Backends

A backend compiles sources of some languages to SPIR-V words. It may take in included files on the way.
-/

namespace ShaderBuild

/-- A compilation, ready for a backend. -/
structure Request where
  source : String
  /-- The file that the source was read from, unless it stands on its own. -/
  origin? : Option String
  config : Config
  /-- Where standard includes are looked for. -/
  searchPath : List Path
  deriving Repr, DecidableEq

/-- A compiler of shaders. -/
structure Backend (σ : Type) where
  name : String
  languages : List Language
  compile : Request → Action σ (List Int)

namespace Backend

/-- Whether a backend handles the language of a config. -/
def accepts {σ : Type} (backend : Backend σ) (config : Config) : Bool :=
  backend.languages.contains config.language

/-- The words of a module that a program has made. -/
def decode (backend program : String) (bytes : Bytes) : Except RequestError (List Int) :=
  match Spirv.decode bytes with
  | .ok words => .ok (words.map Int.ofNat)
  | .error fault =>
    .error (.backend backend s!"{program} produced an invalid module: {fault.message}")

end Backend

end ShaderBuild
