import ShaderBuild.Backend.Tool

/-! # WGSL

WGSL has no includes, so a source is all there is to a compilation. The tool writes every entry point
of a module; stage and entry point are not handed on.
-/

namespace ShaderBuild.Naga

/-- The tool for WGSL. -/
def tool : Tool := ⟨"naga", "naga", "NAGA"⟩

def arguments (config : Config) : Except RequestError (List String) :=
  match config.target with
  | .error pair => .error (.badTarget pair)
  | .ok target =>
    .ok (["--spv-version", target.version.label] ++
      (if config.flipVertical then [] else ["--keep-coordinate-space"]) ++
      (if config.debugInfo then ["-g"] else []))

def compile {σ : Type} (executable? : Option String) (request : Request) : Action σ (List Int) := do
  let flags ← Action.ofRequest (arguments request.config)
  Action.withScratch fun dir => do
    let source := dir ++ "/input.wgsl"
    let output := dir ++ "/output.spv"
    Action.writeFile source (Text.Utf8.encode request.source)
    let _ ← tool.run executable? (flags ++ [source, output]) (some request.source)
    tool.readOutput output

def backend {σ : Type} (executable? : Option String) : Backend σ :=
  ⟨tool.backend, [.wgsl], compile executable?⟩

end ShaderBuild.Naga
