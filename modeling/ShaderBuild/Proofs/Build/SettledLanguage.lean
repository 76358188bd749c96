import ShaderBuild.Proofs.Backend.Stops
import ShaderBuild.Proofs.Build.AllRefused
import ShaderBuild.Proofs.Build.ReceivedConfigs
import ShaderBuild.Proofs.Config.Suffixes

/-! # The language is settled first

A backend is never left to find out what a source is written in. Directives settle that, else the name of
the file, and else it is GLSL if there is a backend for it and WGSL if not. A guess fails only if no
backend could have taken it, or if one that takes it says that it does not.
-/

namespace ShaderBuild

variable {σ : Type}

namespace Compiler

variable {backends : List (Backend σ)} {config : Config} {origin? : Option String}

end Compiler

namespace Dispatch

variable {request : Request} {session after : Session σ} {tried backends : List (Backend σ)}
  {failures : List Failure}

end Dispatch

namespace Compiler

variable {compiler : Compiler σ} {source : String} {origin? : Option String} {config : Config}

end Compiler

end ShaderBuild
