import ShaderBuild.Include.Depfile
import ShaderBuild.Session

/-! # Taking in included files

An include is located in the file tree and read; the file is a dependency of the compilation from then
on. A search goes through the directories in order, and the first one that holds the file wins.
-/

namespace ShaderBuild

/-- An included file. -/
structure IncludedFile where
  path : String
  content : String
  deriving Repr, DecidableEq

namespace Include

/-- The error for an include that no directory holds. -/
def notFound (wanted : Include) (searchPath : List Path) : IncludeError :=
  ⟨wanted, .notFound (searchPath.map Path.toString)⟩

/-- Locate a file next to the one that includes it. -/
def besides (wanted : Include) (origin? : Option String) : Except IncludeError Path :=
  match origin? with
  | none => .error ⟨wanted, .noDirectory⟩
  | some origin => .ok ((Path.ofString origin).parent.below wanted.name)

def search (tree : FileTree) (name : String) : List Path → Except SystemFault (Option Path)
  | [] => .ok none
  | dir :: dirs =>
    let candidate := dir.below name
    match tree.findFile candidate.toString with
    | .error fault => .error fault
    | .ok true => .ok (some candidate)
    | .ok false => search tree name dirs

/-- Stop at an include that cannot be taken in. -/
def fail {α : Type} (e : IncludeError) : Except Fault α := .error (RequestError.inclusion e).fault

def locate (tree : FileTree) (searchPath : List Path) (wanted : Include) (origin? : Option String) :
    Except Fault Path :=
  match wanted.kind with
  | .relative =>
    match besides wanted origin? with
    | .ok path => .ok path
    | .error e => fail e
  | .standard =>
    match search tree wanted.name searchPath with
    | .ok (some path) => .ok path
    | .ok none => fail (notFound wanted searchPath)
    | .error fault => .error (.access (.system fault))

def readLocated (tree : FileTree) (wanted : Include) (path : Path) : Except Fault IncludedFile :=
  let shown := path.toString
  match tree.read shown with
  | .error (.system fault) => fail ⟨wanted, .unreadable shown fault.reason⟩
  | .error .nul => .error (.access .nul)
  | .ok bytes =>
    match Text.Utf8.decode bytes with
    | .ok text => .ok ⟨shown, String.ofList (Text.universalNewlines text)⟩
    | .error fault => fail ⟨wanted, .unreadable shown fault.message⟩

def find (tree : FileTree) (searchPath : List Path) (wanted : Include) (origin? : Option String) :
    Except Fault IncludedFile := do
  let path ← locate tree searchPath wanted origin?
  readLocated tree wanted path

/-- Take in a file: locate it, read it and note that it was read. -/
def resolve {σ : Type} (searchPath : List Path) (wanted : Include) (origin? : Option String) :
    Action σ IncludedFile := do
  let file ← Action.ofExcept (find (← get).tree searchPath wanted origin?)
  Action.record file.path
  return file

/-- A source that is no file must not hold relative includes; the first one is reported. -/
def checkInline (source : String) : Except IncludeError Unit :=
  match (scan source).find? fun found => found.kind = .relative with
  | some found => .error ⟨found, .noDirectory⟩
  | none => .ok ()

/-- Note the files that a depfile lists, apart from the compiled one. -/
def recordDepfile {σ : Type} (text : String) (skip? : Option String) : Action σ Unit :=
  (Depfile.parse text).forM fun path =>
    if some path = skip? then pure () else Action.record path

end Include

end ShaderBuild
