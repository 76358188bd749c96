import ShaderBuild.Artifact.Render

/-! # Writing artifacts

Every shader makes two files: the artifact and its depfile.
-/

namespace ShaderBuild.Artifact

/-- Files by name, in the order in which the names first came up. -/
abbrev Written := List (String × Path)

/-- Enter a file. A name that is there keeps its place and takes the new path. -/
def enter (written : Written) (name : String) (path : Path) : Written :=
  if written.any fun entry => entry.1 == name then
    written.map fun entry => if entry.1 = name then (name, path) else entry
  else written ++ [(name, path)]

def enterAll (written more : Written) : Written :=
  more.foldl (fun written entry => enter written entry.1 entry.2) written

/-- The content of an artifact. Numbers that are no words can only be shown, not stored. -/
def content (name : String) (feedback : Feedback) : Format → Except Fault Bytes
  | .python => .ok (Text.Utf8.encode (String.ofList (renderPython name feedback)))
  | .header => .ok (Text.Utf8.encode (String.ofList (renderHeader name feedback)))
  | .binary =>
    match Spirv.encode? feedback.words with
    | some bytes => .ok bytes
    | none => .error .unstorable

/-- The path of an artifact in a directory. -/
def pathIn (dir : Path) (name : String) (format : Format) : Path := dir.below (name ++ format.suffix)

/-- The path of the depfile for an artifact: its own with a suffix more. -/
def depfileFor (artifact : Path) : Except Fault Path :=
  if artifact.name.isEmpty then .error (.nameless artifact)
  else .ok (artifact.withName (artifact.name ++ ".d"))

/-- Make the directory of a file and the ones above it. -/
def makeParent {σ : Type} (path : Path) : Action σ Unit :=
  Action.changeTree fun tree => tree.makeDirectories path.parent

/-- Write an artifact and its depfile to given paths. -/
def writeAt {σ : Type} (name : String) (feedback : Feedback) (format : Format)
    (artifact depfile : Path) : Action σ Written := do
  makeParent artifact
  makeParent depfile
  let bytes ← Action.ofExcept (content name feedback format)
  Action.writeFile artifact.toString bytes
  let rule := renderDepfile artifact feedback.dependencies
  Action.writeFile depfile.toString (Text.Utf8.encode (String.ofList rule))
  return enter [(artifact.name, artifact)] depfile.name depfile

/-- Write an artifact and its depfile. What is not said goes to a directory under the shader's name. -/
def write {σ : Type} (dir : Path) (name : String) (feedback : Feedback) (format : Format)
    (artifact? depfile? : Option Path) : Action σ Written := do
  let artifact := artifact?.getD (pathIn dir name format)
  let depfile ←
    match depfile? with
    | some depfile => pure depfile
    | none => Action.ofExcept (depfileFor artifact)
  writeAt name feedback format artifact depfile

end ShaderBuild.Artifact
