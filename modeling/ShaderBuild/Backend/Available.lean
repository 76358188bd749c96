import ShaderBuild.Backend.Naga
import ShaderBuild.Backend.Shaderc
import ShaderBuild.Backend.SpirvAssembler

/-! # Available backends

The known backends in the order in which they are tried, as far as their executables are found.
-/

namespace ShaderBuild.Backend

/-- The known tools in the order of preference. -/
def tools : List Tool := [Naga.tool, Shaderc.tool, SpirvAssembler.tool]

/-- The tools that are installed, each with its executable. -/
def installed (tree : FileTree) (environment : List (String × String)) : List (Tool × String) :=
  tools.filterMap fun tool =>
    (tool.executable? tree environment none).map fun executable => (tool, executable)

/-- The backend that drives a tool with an executable. -/
def ofTool {σ : Type} (tool : Tool) (executable? : Option String) : Backend σ :=
  if tool = Naga.tool then Naga.backend executable?
  else if tool = Shaderc.tool then Shaderc.backend executable?
  else SpirvAssembler.backend executable?

def available {σ : Type} (tree : FileTree) (environment : List (String × String)) : List (Backend σ) :=
  (installed tree environment).map fun (tool, executable) => ofTool tool (some executable)

end ShaderBuild.Backend
