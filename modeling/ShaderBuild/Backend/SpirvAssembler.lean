import ShaderBuild.Backend.Tool

/-! # Textual SPIR-V

The version in the header of an assembled module follows the target.
-/

namespace ShaderBuild.SpirvAssembler

/-- The tool for textual SPIR-V. -/
def tool : Tool := ⟨"spirv-as", "spirv-as", "SPIRV_AS"⟩

def arguments (config : Config) : Except RequestError (List String) :=
  match config.target with
  | .error pair => .error (.badTarget pair)
  | .ok target => .ok ["--target-env", s!"spv{target.version.label}"]

def compile {σ : Type} (executable? : Option String) (request : Request) : Action σ (List Int) := do
  let flags ← Action.ofRequest (arguments request.config)
  Action.withScratch fun dir => do
    let source := dir ++ "/input.spvasm"
    let output := dir ++ "/output.spv"
    Action.writeFile source (Text.Utf8.encode request.source)
    let _ ← tool.run executable? (flags ++ ["-o", output, source]) (some request.source)
    tool.readOutput output

def backend {σ : Type} (executable? : Option String) : Backend σ :=
  ⟨tool.backend, [.assembly], compile executable?⟩

end ShaderBuild.SpirvAssembler
