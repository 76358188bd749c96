import ShaderBuild.Artifact.Write
import ShaderBuild.Build.Compiler
import ShaderBuild.Manifest.Manifest

/-! # Building manifests

The shaders of a manifest are compiled and written one after another. The first failure ends the build;
what has been written by then stays.
-/

namespace ShaderBuild

/-- A manifest with what the command line says about its artifacts. -/
structure Build (σ : Type) where
  manifest : Manifest
  compiler : Compiler σ
  outDir? : Option Path := none
  format? : Option Format := none

namespace Build

variable {σ : Type}

/-- The directory of the artifacts: the one that is asked for, else the manifest's below the root. -/
def target? (build : Build σ) : Option Path :=
  build.outDir?.or (build.compiler.root.resolve? build.manifest.defaults.outDir)

/-- The format of a shader's artifact: the build's, else the shader's own, else the manifest's. -/
def formatOf (build : Build σ) (shader : Shader) : Format :=
  (build.format?.or shader.format?).getD build.manifest.defaults.format

def compileShader (build : Build σ) (shader : Shader) : Action σ Feedback :=
  let directives := DirectiveSource.items (shader.directiveList build.manifest.defaults)
  match shader.inline?, shader.source? with
  | some source, _ => build.compiler.compileInline source directives
  | none, some path => build.compiler.compileFile path directives
  | none, none => throw (.sourceless shader.name)

/-- Compile the shaders from a position on and write them to a directory. -/
def runFrom (build : Build σ) (outDir : Path) (total : Nat) :
    Nat → Artifact.Written → List Shader → Action σ Artifact.Written
  | _, written, [] => return written
  | position, written, shader :: shaders => do
    Action.log (.step (position + 1 : Nat) total shader.name)
    let feedback ← build.compileShader shader
    let files ← Artifact.write outDir shader.name feedback (build.formatOf shader) none none
    runFrom build outDir total (position + 1) (Artifact.enterAll written files) shaders

/-- Compile and write every shader, and give all files by name. -/
def run (build : Build σ) : Action σ Artifact.Written := do
  match build.target? with
  | none => throw .rootless
  | some outDir =>
    let shaders := build.manifest.shaders
    Action.log (.header "Build" s!"{shaders.length} shaders")
    Action.log (.path outDir.toString "output")
    build.runFrom outDir shaders.length 0 [] shaders

end Build

end ShaderBuild
