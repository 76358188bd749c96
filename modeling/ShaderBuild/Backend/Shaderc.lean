import ShaderBuild.Backend.Tool
import ShaderBuild.Include.Resolver

/-! # GLSL and HLSL

The tool runs a preprocessor of its own over the file that a source comes from, and lists the files it
has read in a depfile. A source that is no file is written to one first. Warnings fail a compilation.
-/

namespace ShaderBuild.Shaderc

/-- The tool for GLSL and HLSL. -/
def tool : Tool := ⟨"shaderc", "glslc", "GLSLC"⟩

/-- The tool's word for a target, if it knows the target. -/
def targetWord? : Target → Option String
  | .vulkan1_0 => some "vulkan1.0"
  | .vulkan1_1 => some "vulkan1.1"
  | .vulkan1_2 => some "vulkan1.2"
  | .opengl4_5 => some "opengl4.5"
  | .webgpu => none

def optimizationFlag : Optimization → String
  | .none => "-O0"
  | .minSize => "-Os"
  | .maxPerformance => "-O"

/-- The word for the language of a config. -/
def languageWord (config : Config) : String := if config.language = .hlsl then "hlsl" else "glsl"

/-- The stage of a compilation: the one that the config names, else the one that the suffix of the
    file names. -/
def stageOf (config : Config) (origin? : Option String) : Stage :=
  match config.stage, origin? with
  | .unknown, some origin => (Stage.ofSuffix? (Path.ofString origin)).getD .unknown
  | stage, _ => stage

def stageFlags (stage : Stage) : List String :=
  if stage = .unknown then [] else [s!"-fshader-stage={stage.word}"]

def defineFlag : Define → String
  | (name, none) => s!"-D{name}"
  | (name, some value) => s!"-D{name}={value}"

/-- The target of a config in the tool's words. -/
def targetFlag (config : Config) : Except RequestError String :=
  match config.target with
  | .error pair => .error (.badTarget pair)
  | .ok target =>
    match targetWord? target with
    | some word => .ok s!"--target-env={word}"
    | none => .error (.unknownTarget tool.program target)

def arguments (config : Config) (origin? : Option String) (searchPath : List Path) :
    Except RequestError (List String) := do
  let target ← targetFlag config
  return ["-x", languageWord config, target, optimizationFlag config.optimization,
      s!"-fentry-point={config.entryPoint}", "-Werror"] ++
    stageFlags (stageOf config origin?) ++ config.defines.map defineFlag ++
    (if config.debugInfo then ["-g"] else []) ++
    (if config.autoBindUniforms then ["-fauto-bind-uniforms"] else []) ++
    searchPath.flatMap fun dir => ["-I", dir.toString]

/-- The file name that a text goes on with after the tool's words for a missing include. -/
def missingName? (text : List Char) : Option (List Char) := do
  let rest ← Text.after? "Cannot find or open include file".toList text
  let rest := (Text.after? ['.'] rest).getD rest
  let rest ← Text.after? "for header name:".toList (Text.trimLeft rest)
  let name := Text.firstWord rest
  if name.isEmpty then none else some name

/-- The first file name that diagnostics give as a missing include. -/
def missingInclude? : List Char → Option (List Char)
  | [] => none
  | c :: rest =>
    match missingName? (c :: rest) with
    | some name => some name
    | none => missingInclude? rest

def isQuote (c : Char) : Bool := c == '\'' || c == '"' || c == '<' || c == '>'

/-- A name without the marks around it. -/
def unquote (name : List Char) : String :=
  String.ofList (Text.dropWhileEnd isQuote (name.dropWhile isQuote))

/-- How a source includes a file. A file it does not name itself counts as a standard include. -/
def kindOf (name source : String) : IncludeKind :=
  match (Include.scan source).find? fun found => found.name = name with
  | some found => found.kind
  | none => .standard

/-- Report a missing include as such. Other diagnostics stay as they are. -/
def explain (request : Request) (fault : Fault) : Fault :=
  match fault with
  | .refused (.backend _ diagnostic) _ =>
    match missingInclude? diagnostic.toList with
    | some found =>
      let name := unquote found
      let wanted : Include := ⟨name, kindOf name request.source⟩
      (RequestError.inclusion (Include.notFound wanted request.searchPath)).fault
    | none => fault
  | _ => fault

/-- Note the files that the tool lists in its depfile, if it has written one. -/
def recordListed {σ : Type} (depfile source : String) : Action σ Unit := do
  let tree := (← get).tree
  if tree.isFile depfile then
    match tree.read depfile with
    | .error fault => throw (.access fault)
    | .ok bytes =>
      match Text.Utf8.decode bytes with
      | .error fault => throw (.encoding fault)
      | .ok text =>
        Include.recordDepfile (String.ofList (Text.universalNewlines text)) (some source)
  else return ()

/-- The file that the tool is to compile: the one that the source comes from, or a new one. -/
def sourceFile {σ : Type} (request : Request) (dir : String) : Action σ (String × Option String) := do
  match request.origin? with
  | some origin => return ((Path.ofString origin).toString, none)
  | none =>
    let path := s!"{dir}/inline.{languageWord request.config}"
    Action.writeFile path (Text.Utf8.encode request.source)
    return (path, some request.source)

/-- A source that is no file must not hold relative includes. -/
def checkSource (request : Request) : Except RequestError Unit :=
  match request.origin? with
  | some _ => .ok ()
  | none => (Include.checkInline request.source).mapError .inclusion

def compile {σ : Type} (executable? : Option String) (request : Request) : Action σ (List Int) := do
  Action.ofRequest (checkSource request)
  let flags ← Action.ofRequest (arguments request.config request.origin? request.searchPath)
  Action.withScratch fun dir => do
    let (source, input?) ← sourceFile request dir
    let output := dir ++ "/output.spv"
    let depfile := dir ++ "/output.spv.d"
    let arguments := flags ++ ["-MD", "-MF", depfile, "-o", output, source]
    match ← Action.outcome (tool.run executable? arguments input?) with
    | .error fault => throw (explain request fault)
    | .ok _ =>
      recordListed depfile source
      tool.readOutput output

def backend {σ : Type} (executable? : Option String) : Backend σ :=
  ⟨tool.backend, [.glsl, .hlsl], compile executable?⟩

end ShaderBuild.Shaderc
