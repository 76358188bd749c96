import ShaderBuild.Artifact.Format
import ShaderBuild.Artifact.Symbol
import ShaderBuild.CommandLine.Arguments
import ShaderBuild.Config.BuildRoot
import ShaderBuild.Path

/-! # Commands

What can be asked for on the command line: to build a manifest, to compile one shader, or to check the
directives of a manifest.
-/

namespace ShaderBuild.CommandLine

/-- Build the shaders of a manifest. -/
structure BuildCommand where
  manifest : Path
  root? : Option BuildRoot
  outDir? : Option Path
  format? : Option Format
  deriving Repr, DecidableEq

/-- Compile one shader. -/
structure CompileCommand where
  /-- The path of the source below the root, or the source itself. -/
  source : String
  inline : Bool
  directives : String
  name : String
  root? : Option BuildRoot
  output : Path
  format : Format
  depfile? : Option Path
  deriving Repr, DecidableEq

/-- Check the directives of a manifest. -/
structure CheckCommand where
  manifest : Path
  /-- Whether to show what the directives say. -/
  showPlans : Bool
  deriving Repr, DecidableEq

/-- What is asked for. -/
inductive Command where
  | build (command : BuildCommand)
  | compile (command : CompileCommand)
  | check (command : CheckCommand)
  deriving Repr, DecidableEq

def programName : String := "shaderbake"

/-- The name and the version of the program. -/
def versionText : String := programName ++ " 0.1.0"

namespace Flag

def help : Flag := ⟨["-h", "--help"], .help⟩

def version : Flag := ⟨["--version"], .version⟩

def outDir : Flag := ⟨["--out-dir"], .value []⟩

def format : Flag := ⟨["--format"], .value (Format.all.map Format.word)⟩

def baseDir : Flag := ⟨["--base-dir"], .value []⟩

/-- The source is not a path but the text itself. -/
def inline : Flag := ⟨["--inline"], .switch⟩

def directives : Flag := ⟨["-d", "--directives"], .value []⟩

def name : Flag := ⟨["--name"], .value []⟩

def output : Flag := ⟨["-o", "--output"], .value []⟩

def depfile : Flag := ⟨["--depfile"], .value []⟩

/-- Asks for the plans of the shaders. -/
def printPlan : Flag := ⟨["--print-plan"], .switch⟩

end Flag

namespace Arguments

/-- The value of a flag as a path. -/
def path? (arguments : Arguments) (flag : Flag) : Option Path :=
  (arguments.value? flag).map Path.ofString

/-- The build root that the arguments give. Without a value it is given all the same. -/
def root? (arguments : Arguments) : Option BuildRoot :=
  if arguments.has .baseDir then
    some (((arguments.path? .baseDir).map BuildRoot.directory).getD .void)
  else none

def format? (arguments : Arguments) : Option Format :=
  (arguments.value? Flag.format).bind Format.ofWord?

/-- The operand of a command that takes one word. -/
def word (arguments : Arguments) : String := arguments.operand.headD ""

end Arguments

namespace BuildCommand

def usage : Usage :=
  { program := programName ++ " build", operand := .word "manifest",
    flags := [.help, .outDir, .format, .baseDir] }

def ofArguments (arguments : Arguments) : BuildCommand :=
  { manifest := Path.ofString arguments.word
    root? := arguments.root?
    outDir? := arguments.path? .outDir
    format? := arguments.format? }

end BuildCommand

namespace CompileCommand

def usage : Usage :=
  { program := programName ++ " compile", operand := .word "source",
    flags := [.help, .inline, .directives, .name, .output, .format, .depfile, .baseDir] }

/-- The name of a shader that is given none: the symbol for the stem of its file. -/
def defaultName (source : String) (inline : Bool) : String :=
  if inline then "shader" else Artifact.symbol (Path.ofString source).stem

/-- The command that arguments make. An empty name counts as none. -/
def ofArguments (arguments : Arguments) : CompileCommand :=
  let source := arguments.word
  let inline := arguments.has .inline
  let format := arguments.format?.getD .python
  let given? := (arguments.value? .name).filter fun name => !name.isEmpty
  let name := given?.getD (defaultName source inline)
  { source, inline, name, format
    directives := (arguments.value? .directives).getD ""
    root? := arguments.root?
    output := (arguments.path? .output).getD (Path.ofString (name ++ format.suffix))
    depfile? := arguments.path? .depfile }

end CompileCommand

namespace CheckCommand

def usage : Usage :=
  { program := programName ++ " check", operand := .word "manifest", flags := [.help, .printPlan] }

def ofArguments (arguments : Arguments) : CheckCommand :=
  ⟨Path.ofString arguments.word, arguments.has .printPlan⟩

end CheckCommand

namespace Command

/-- Every command: its name, what it takes and what its arguments make. -/
def table : List (String × Usage × (Arguments → Command)) :=
  [("build", BuildCommand.usage, fun arguments => .build (.ofArguments arguments)),
   ("compile", CompileCommand.usage, fun arguments => .compile (.ofArguments arguments)),
   ("check", CheckCommand.usage, fun arguments => .check (.ofArguments arguments))]

def names : List String := table.map (·.1)

def programUsage : Usage :=
  { program := programName, operand := .command names, flags := [.help, .version] }

def allRead (unread : List String) : Except Stop Unit :=
  if unread.isEmpty then .ok ()
  else .error (.misuse programName (.unrecognized unread))

/-- Read a command line. It need not hold a command. -/
def read (words : List String) : Except Stop (Option Command) := do
  let outer ← CommandLine.read programUsage words
  match outer.operand with
  | [] =>
    allRead outer.unread
    return none
  | name :: rest =>
    match table.lookup name with
    | none => throw (.misuse programName (.badChoice "command" name names))
    | some (usage, make) =>
      let arguments ← CommandLine.read usage rest
      allRead (outer.unread ++ arguments.unread)
      return some (make arguments)

end Command

end ShaderBuild.CommandLine
