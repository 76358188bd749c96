import ShaderBuild.Fault
import ShaderBuild.Log.Entry

/-! # Sessions

What a build works on: files, the process environment, the tools it can start, and what it has done so
far. A step of a build changes the session and may end in a fault; what it did before the fault stays
done.
-/

namespace ShaderBuild

/-- The start of a tool. -/
structure ToolCall where
  /-- The executable and its arguments. -/
  command : List String
  /-- The text of the source, if it was written for this call only. -/
  input? : Option String
  deriving Repr, DecidableEq

/-- Whether a word of the command holds a null character. No process can be given such a word. -/
def ToolCall.holdsNul (call : ToolCall) : Bool := call.command.any fun word => word.toList.contains '\x00'

/-- What a tool that has ended leaves behind. -/
structure ToolRun where
  status : Int
  stdout : Bytes
  stderr : Bytes
  /-- The files it has written. -/
  written : List (String × Bytes)
  deriving Repr, DecidableEq

/-- What becomes of the start of a tool. -/
inductive ToolOutcome where
  | cannotStart (fault : SystemFault)
  /-- The command cannot be handed to the system for a null character in it. -/
  | nul
  | finished (run : ToolRun)
  deriving Repr, DecidableEq

/-- The tools that can be started. What one does depends on the files and on the earlier calls. -/
abbrev Launcher := FileTree → List ToolCall → ToolCall → ToolOutcome

/-- Start tools only by commands that can be handed to the system. -/
def Launcher.guarded (launcher : Launcher) : Launcher := fun tree calls call =>
  if call.holdsNul then .nul else launcher tree calls call

/-- The state of a build. Backends may keep a state `σ` of their own in it. -/
structure Session (σ : Type) where
  tree : FileTree
  environment : List (String × String)
  launcher : Launcher
  /-- The directory for the files of one compilation; it exists while they are needed. -/
  scratch : String
  /-- The tools that were started, in order. -/
  calls : List ToolCall
  log : List Log.Entry
  /-- The files that the current compilation has read, in order. -/
  dependencies : List String
  extra : σ

/-- A step of a build. -/
abbrev Action (σ : Type) := ExceptT Fault (StateM (Session σ))

namespace Action

variable {σ α : Type}

def refuse (error : RequestError) : Action σ α := throw error.fault

/-- Refuse the request if something about it is in error. -/
def ofRequest (outcome : Except RequestError α) : Action σ α :=
  match outcome with
  | .ok a => pure a
  | .error error => refuse error

def ofExcept (outcome : Except Fault α) : Action σ α :=
  match outcome with
  | .ok a => pure a
  | .error fault => throw fault

def log (entry : Log.Entry) : Action σ Unit :=
  modify fun session => { session with log := session.log ++ [entry] }

def say (level : Log.Level) (text : String) : Action σ Unit := log (.message level text)

/-- Note that the current compilation has read a file. -/
def record (path : String) : Action σ Unit :=
  modify fun session => { session with dependencies := session.dependencies ++ [path] }

def changeTree (change : FileTree → FileTree.Attempt) : Action σ Unit := do
  let (tree, fault?) := change (← get).tree
  modify fun session => { session with tree }
  match fault? with
  | none => return ()
  | some fault => throw (.access fault)

def writeFile (path : String) (content : Bytes) : Action σ Unit :=
  changeTree fun tree => tree.attempt (·.write path content)

/-- What comes of an action, which cannot stop the build. -/
def outcome (action : Action σ α) : Action σ (Except Fault α) := ExceptT.mk (Except.ok <$> action.run)

/-- Work in a fresh scratch directory, which is gone afterwards whatever came of the work. -/
def withScratch (work : String → Action σ α) : Action σ α := do
  let dir := (← get).scratch
  changeTree fun tree => tree.attempt (·.makeDirectory dir)
  let result ← outcome (work dir)
  modify fun session => { session with tree := session.tree.removeDirectory dir }
  ofExcept result

end Action

end ShaderBuild
