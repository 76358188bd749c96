import ShaderBuild.Backend.Available
import ShaderBuild.Build.Runner
import ShaderBuild.CommandLine.Command
import ShaderBuild.Manifest.Load

/-! # Running commands

A command is carried out in a session. What goes wrong is reported in the log, apart from what nobody
has foreseen, which ends the run with its cause.
-/

namespace ShaderBuild.CommandLine

/-- What a run takes from elsewhere. -/
structure Libraries where
  readYaml : Manifest.YamlReader := Yaml.read
  /-- The address of a manual that explains what is found wrong with manifests, up to the name of the
      kind of problem. -/
  manual? : Option String := none

/-- Why a command fails. -/
inductive Failure where
  | manifest (fault : Manifest.LoadFault)
  | build (fault : Fault)
  deriving Repr

/-- How a failure is reported. -/
inductive Report where
  /-- What was asked for is refused; earlier attempts are noted. -/
  | refusal (message : String) (notes : List String)
  /-- The place where the program runs stands in the way. -/
  | obstacle (message : String)
  | unforeseen
  deriving Repr, DecidableEq

namespace Failure

/-- Whether a fault of a YAML text is foreseen: values out of range are, broken texts are not. -/
def isForeseen : Yaml.Fault → Bool
  | .codePoint code => !Yaml.isOversized code
  | .integer .. | .longInteger _ | .float _ | .moment _ => true
  | .malformed | .truth _ | .unboundedPlace | .emptyNumber | .notMoment | .mappedMoment | .endless
  | .nested => false

/-- The report on a manifest that cannot be loaded. -/
def reportManifest (manual? : Option String) (fault : Manifest.LoadFault) : Report :=
  match fault with
  | .expansion (.variable e) => .refusal e.message []
  | .expansion .unlisted | .expansion .tooDeep | .json .nested => .unforeseen
  | .yaml cause => if isForeseen cause then .obstacle cause.message else .unforeseen
  | _ => .obstacle (fault.message manual?)

/-- The report on a fault of a build. -/
def reportBuild (fault : Fault) : Report :=
  match fault with
  | .refused error notes => .refusal error.message notes
  | .unstorable | .rootless | .foreign .. => .unforeseen
  | _ => .obstacle fault.message

def report (manual? : Option String) : Failure → Report
  | .manifest fault => reportManifest manual? fault
  | .build fault => reportBuild fault

def message : Failure → String
  | .manifest fault => fault.message none
  | .build fault => fault.message

end Failure

/-- How a run ends. -/
inductive Ending where
  | done
  /-- A failure that the log reports. -/
  | failed
  | unforeseen (failure : Failure)
  | help
  | version
  /-- The command line holds no command. -/
  | nothingAsked
  | misuse (text : String)
  deriving Repr

def Ending.status : Ending → Nat
  | .done | .help | .version => 0
  | .failed | .unforeseen _ => 1
  | .nothingAsked | .misuse _ => 2

/-- A step of a command. -/
abbrev Task (σ : Type) := ExceptT Failure (StateM (Session σ))

variable {σ : Type}

/-- A step of a build as a step of a command. -/
def ofAction {α : Type} (action : Action σ α) : Task σ α := ExceptT.adapt .build action

def loadManifest (readYaml : Manifest.YamlReader) (path : Path) : Task σ Manifest := do
  match Manifest.loadWith readYaml (← get).tree path with
  | .ok manifest => return manifest
  | .error fault => throw (.manifest fault)

/-- The build root: the one that is given, else the one that the environment names. -/
def buildRoot (given? : Option BuildRoot) : Action σ BuildRoot := do
  match given? with
  | some root => return root
  | none =>
    match BuildRoot.ofEnvironment? (← get).environment with
    | some root => return root
    | none => Action.refuse .missingRoot

/-- A compiler with all backends that are installed. -/
def installedCompiler (root : BuildRoot) : Action σ (Compiler σ) := do
  let session ← get
  return ⟨root, Backend.available session.tree session.environment⟩

/-- Files by name, with their paths as text. -/
def shownFiles (written : Artifact.Written) : List (String × String) :=
  written.map fun (name, path) => (name, path.toString)

/-- Build a manifest and list the artifacts. -/
def BuildCommand.execute (command : BuildCommand) (readYaml : Manifest.YamlReader) : Task σ Unit := do
  let manifest ← loadManifest readYaml command.manifest
  ofAction do
    let compiler ← installedCompiler (← buildRoot command.root?)
    let build : Build σ :=
      { manifest, compiler, outDir? := command.outDir?, format? := command.format? }
    let written ← build.run
    Action.log (.summary (shownFiles written))

def CompileCommand.execute (command : CompileCommand) : Action σ Unit := do
  let compiler ← installedCompiler (← buildRoot command.root?)
  let directives := DirectiveSource.text command.directives
  let feedback ←
    if command.inline then compiler.compileInline command.source directives
    else compiler.compileFile command.source directives
  let written ← Artifact.write command.output.parent command.name feedback command.format
    (some command.output) command.depfile?
  Action.say .success s!"Compiled {command.name} ({feedback.words.length} words)"
  (shownFiles written).forM fun (name, path) => Action.log (.path path name)

def checkShader (manifest : Manifest) (showPlan : Bool) (shader : Shader) : Action σ Unit := do
  let directives := DirectiveSource.items (shader.directiveList manifest.defaults)
  let config ← Compiler.configOf directives
  let plan ← Action.ofRequest ((config.plan shader.name).mapError .badTarget)
  if showPlan then Action.say .plain plan

def CheckCommand.execute (command : CheckCommand) (readYaml : Manifest.YamlReader) : Task σ Unit := do
  let manifest ← loadManifest readYaml command.manifest
  ofAction do
    manifest.shaders.forM (checkShader manifest command.showPlans)
    Action.say .success s!"{manifest.shaders.length} shader directive lists parsed"

def Command.execute (command : Command) (readYaml : Manifest.YamlReader) : Task σ Unit :=
  match command with
  | .build command => command.execute readYaml
  | .compile command => ofAction command.execute
  | .check command => command.execute readYaml

/-- The log entries for a failure and how the run ends with it. -/
def conclude (manual? : Option String) (failure : Failure) : List Log.Entry × Ending :=
  match failure.report manual? with
  | .refusal message notes =>
    (.message .error message :: notes.map (fun note => .message .plain s!"  {note}"), .failed)
  | .obstacle message => ([.message .error s!"Error: {message}"], .failed)
  | .unforeseen => ([], .unforeseen failure)

/-- Carry out a command in a session. -/
def Command.run (command : Command) (libraries : Libraries) (session : Session σ) :
    Ending × Session σ :=
  match (command.execute libraries.readYaml).run.run session with
  | (.ok (), session) => (.done, session)
  | (.error failure, session) =>
    let (entries, ending) := conclude libraries.manual? failure
    (ending, { session with log := session.log ++ entries })

/-- Carry out a command line in a session. -/
def runWith (libraries : Libraries) (words : List String) (session : Session σ) : Ending × Session σ :=
  match Command.read words with
  | .ok (some command) => command.run libraries session
  | .ok none => (.nothingAsked, session)
  | .error .help => (.help, session)
  | .error .version => (.version, session)
  | .error (.misuse program misuse) => (.misuse s!"{program}: error: {misuse.message}", session)

/-- Carry out a command line with the reader of YAML that is at hand, and without a manual. -/
def run (words : List String) (session : Session σ) : Ending × Session σ := runWith {} words session

end ShaderBuild.CommandLine
