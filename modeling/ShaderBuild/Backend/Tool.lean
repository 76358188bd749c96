import ShaderBuild.Backend.Backend

/-! # Tools

The external compilers that backends drive: where they are found, how they are run and what is made of
how they end.
-/

namespace ShaderBuild

/-- An external compiler. -/
structure Tool where
  /-- The name of the backend that drives it. -/
  backend : String
  program : String
  /-- The variable of the process environment that names its executable. -/
  variableName : String
  deriving Repr, DecidableEq

namespace Tool

/-- A program in a directory of the search path. -/
def inDirectory (dir program : String) : String :=
  if dir.isEmpty ∨ dir.toList.getLast? = some '/' then dir ++ program else dir ++ "/" ++ program

/-- The directories in which programs are looked for if the environment does not say. -/
def standardPath : String := "/bin:/usr/bin"

/-- Look for a program. One that is named with a directory is taken as it is. -/
def findProgram? (tree : FileTree) (environment : List (String × String)) (program : String) :
    Option String :=
  if program.toList.contains '/' then
    if tree.isExecutable program then some program else none
  else
    let path := (environment.lookup "PATH").getD standardPath
    if path.isEmpty then none
    else
      let dirs := (Text.splitAt ':' path.toList).map String.ofList
      (dirs.map fun dir => inDirectory dir program).find? tree.isExecutable

def nonempty? (text? : Option String) : Option String := text?.filter fun text => !text.isEmpty

/-- Find an executable: the one that is given, else the one that the environment names, else the program
    itself. -/
def find? (tree : FileTree) (environment : List (String × String)) (program variableName : String)
    (given? : Option String) : Option String :=
  match nonempty? given? with
  | some executable => some executable
  | none =>
    match nonempty? (environment.lookup variableName) with
    | some executable => some executable
    | none => findProgram? tree environment program

def executable? (tool : Tool) (tree : FileTree) (environment : List (String × String))
    (given? : Option String) : Option String :=
  find? tree environment tool.program tool.variableName given?

def complaint (tool : Tool) (text : String) : RequestError := .backend tool.backend text

/-- What a tool has written for people to read. -/
def diagnostics (bytes : Bytes) : List Char := Text.trim (Text.Utf8.decodeLenient bytes)

def hasWarning (text : List Char) : Bool := Text.occursIn "warning".toList (Text.lower text)

/-- What a finished run amounts to. A run is clean if its status is zero and it has given no warning. -/
def judge (tool : Tool) (run : ToolRun) : Except RequestError Bytes :=
  let text := diagnostics run.stderr
  -- A failed run that says nothing is reported by its status.
  if run.status ≠ 0 then
    if text.isEmpty then .error (tool.complaint s!"{tool.program} exited with status {run.status}")
    else .error (tool.complaint (String.ofList text))
  else if hasWarning text then .error (tool.complaint (String.ofList text))
  else .ok run.stdout

/-- Write the files that a tool leaves, as far as that is possible. -/
def leave (tree : FileTree) (written : List (String × Bytes)) : FileTree :=
  written.foldl (fun tree (path, content) => (tree.attempt (·.write path content)).1) tree

/-- Run a tool and give its standard output. -/
def run {σ : Type} (tool : Tool) (executable? : Option String) (arguments : List String)
    (input? : Option String) : Action σ Bytes := do
  match executable? with
  | none =>
    Action.refuse (tool.complaint
      s!"{tool.program} executable not found (set {tool.variableName} or add it to PATH)")
  | some executable =>
    let session ← get
    let call : ToolCall := ⟨executable :: arguments, input?⟩
    set { session with calls := session.calls ++ [call] }
    match session.launcher session.tree session.calls call with
    | .cannotStart fault =>
      Action.refuse (tool.complaint s!"cannot run {executable}: {fault.message}")
    -- Only what the system refuses is put down to the tool.
    | .nul => throw (.access .nul)
    | .finished run =>
      modify fun session => { session with tree := leave session.tree run.written }
      Action.ofRequest (tool.judge run)

/-- Read the module that a tool was to write. -/
def readOutput {σ : Type} (tool : Tool) (path : String) : Action σ (List Int) := do
  match (← get).tree.read path with
  | .ok bytes => Action.ofRequest (Backend.decode tool.backend tool.program bytes)
  | .error fault =>
    Action.refuse (tool.complaint s!"{tool.program} did not write {path}: {fault.message}")

end Tool

end ShaderBuild
