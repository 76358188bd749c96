import ShaderBuild.CommandLine.Run

/-! # The program

Reads the files below the working directory and the build root, carries out the command line on them as
values, and writes what has changed. Tools cannot be started from here; whoever embeds the library
hands in a launcher.
-/

namespace ShaderBuild.Program

/-- The variables that a run can depend on. -/
def variableNames : List String :=
  [BuildRoot.variableName, "PATH"] ++ Backend.tools.map (·.variableName)

/-- The part of the process environment that a run can depend on. -/
def readEnvironment : IO (List (String × String)) := do
  let found ← variableNames.mapM fun name => return (← IO.getEnv name).map fun text => (name, text)
  return found.filterMap id

/-- Add a file and the directories above it, if there is room for them. -/
def addFile (tree : FileTree) (path : String) (content : Bytes) : FileTree :=
  let (tree, _) := tree.makeDirectories (Path.ofString path).parent
  (tree.attempt (·.write path content)).1

/-- Read the files of a directory and of the ones below it, apart from hidden ones. -/
partial def readFiles (tree : FileTree) (lead : String) (entries : List IO.FS.DirEntry) : IO FileTree :=
  entries.foldlM (fun tree entry => do
    let path := lead ++ entry.fileName
    if entry.fileName.startsWith "." then return tree
    else if ← entry.path.isDir then
      let tree := (tree.makeDirectories (Path.ofString path)).1
      readFiles tree (path ++ "/") (← entry.path.readDir).toList
    else return addFile tree path (← IO.FS.readBinFile entry.path).toList) tree

/-- Read a file or a directory that stands outside of the working directory. -/
def readPlace (tree : FileTree) (place : String) : IO FileTree := do
  try
    let real ← IO.FS.realPath place
    if ← real.isDir then
      let tree := (tree.makeDirectories (Path.ofString place)).1
      readFiles tree (place ++ "/") (← real.readDir).toList
    else return addFile tree place (← IO.FS.readBinFile real).toList
  catch _ => return tree

/-- The build root, if there is one. -/
def rootOf (environment : List (String × String)) (given? : Option BuildRoot) : List Path :=
  ((given?.or (BuildRoot.ofEnvironment? environment)).bind BuildRoot.dir?).toList

def placesOf (environment : List (String × String)) : CommandLine.Command → List Path
  | .build command => command.manifest :: rootOf environment command.root?
  | .compile command => rootOf environment command.root?
  | .check command => [command.manifest]

/-- Read all files that a command line can need. -/
def readTree (environment : List (String × String)) (words : List String) : IO FileTree := do
  let here ← IO.currentDir
  let tree ← readFiles .empty "" (← here.readDir).toList
  match CommandLine.Command.read words with
  | .ok (some command) =>
    let outside := (placesOf environment command).filter fun path =>
      path.root ≠ .relative ∨ path.parts.contains ".."
    outside.foldlM (fun tree path => readPlace tree path.toString) tree
  | _ => return tree

def writeChanges (before after : FileTree) : IO Unit :=
  (after.filesSince before).forM fun (place, content) => do
    IO.FS.createDirAll place.path.parent.toString
    IO.FS.writeBinFile place.path.toString ⟨content.toArray⟩

/-- What the program can be asked for. -/
def helpText : String :=
  let name := CommandLine.programName
  "\n".intercalate
    [s!"usage: {name} build MANIFEST [--out-dir DIR] [--format FORMAT] [--base-dir DIR]",
     s!"       {name} compile SOURCE [--inline] [-d DIRECTIVES] [--name NAME] [-o FILE]",
     "           [--format FORMAT] [--depfile FILE] [--base-dir DIR]",
     s!"       {name} check MANIFEST [--print-plan]",
     s!"       {name} --version"]

def announce (ending : CommandLine.Ending) : IO Unit :=
  match ending with
  | .done | .failed => return ()
  | .unforeseen failure => IO.eprintln s!"unexpected error: {failure.message}"
  | .help => IO.println helpText
  | .version => IO.println CommandLine.versionText
  | .nothingAsked => IO.eprintln helpText
  | .misuse text => IO.eprintln text

/-- Carry out a command line and give the exit status. -/
def run (words : List String) : IO UInt32 := do
  let environment ← readEnvironment
  let tree ← readTree environment words
  let session : Session Unit :=
    { tree, environment
      launcher := Launcher.guarded fun _ _ call => .cannotStart (.missing (call.command.headD ""))
      scratch := "shaderbake-scratch"
      calls := [], log := [], dependencies := [], extra := () }
  let (ending, after) := CommandLine.run words session
  writeChanges tree after.tree
  (after.log.flatMap Log.Entry.lines).forM fun line => IO.eprintln line
  announce ending
  return ending.status.toUInt32

end ShaderBuild.Program

def main (words : List String) : IO UInt32 := ShaderBuild.Program.run words
