import ShaderBuild.Path

/-! # Build roots

The directory that a build resolves its paths against. It is itself the first directory in which
includes are looked for.
-/

namespace ShaderBuild

/-- The root of a build. -/
inductive BuildRoot where
  | directory (dir : Path)
  /-- A root that was taken back after it was given. Nothing lies below it. -/
  | void
  deriving Repr, DecidableEq

namespace BuildRoot

/-- The variable that names the root when the command line does not. -/
def variableName : String := "SHADERBAKE_BASE_DIR"

def missingMessage : String :=
  variableName ++ " is not set; shaderbake needs a build root to resolve shader paths (pass --base-dir " ++
    "or set the variable)"

/-- The root that the process environment names. An empty name is none. -/
def ofEnvironment? (environment : List (String × String)) : Option BuildRoot :=
  match environment.lookup variableName with
  | some text => if text.isEmpty then none else some (.directory (Path.ofString text))
  | none => none

/-- The directory of a root, if it has one. -/
def dir? : BuildRoot → Option Path
  | .directory dir => some dir
  | .void => none

/-- The root as a place to look for includes in. A void one goes by a pair of brackets. -/
def place (root : BuildRoot) : Path := root.dir?.getD (Path.ofString "[]")

/-- A path as seen from the root; an absolute one stands for itself. -/
def resolve? (root : BuildRoot) (path : String) : Option Path := root.dir?.map (·.below path)

/-- Where standard includes are looked for: the root first, then the include directories as listed. -/
def searchPath? (root : BuildRoot) (includeDirs : List String) : Option (List Path) :=
  (includeDirs.mapM root.resolve?).map (root.place :: ·)

end BuildRoot

end ShaderBuild
