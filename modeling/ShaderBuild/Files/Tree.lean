import ShaderBuild.Files.SystemFault
import ShaderBuild.Path

/-! # File trees

The files and directories that a build sees, as a value. Paths are walked component by component from
the working directory, so that `..` leads out of a directory only if that directory exists.
-/

namespace ShaderBuild

/-- The content of a file. -/
abbrev Bytes := List UInt8

/-- Where the names of a location are counted from. -/
inductive Anchor where
  /-- The directory `levels` above the working directory. -/
  | above (levels : Nat)
  | absolute
  deriving Repr, DecidableEq

/-- A place in the tree. -/
structure Location where
  anchor : Anchor
  /-- The names from the place itself up to the anchor. -/
  names : List String
  deriving Repr, DecidableEq

/-- What stands at a place. -/
inductive Node where
  | directory
  | file (content : Bytes) (executable : Bool)
  deriving Repr, DecidableEq

/-- The places that are taken, in the order they came to be. Anchors are directories always. -/
structure FileTree where
  nodes : List (Location × Node)
  deriving Repr

/-- Why a path, or a word of a command, cannot be used. -/
inductive AccessFault where
  | system (fault : SystemFault)
  /-- It holds the character U+0000. -/
  | nul
  deriving Repr, DecidableEq

def AccessFault.message : AccessFault → String
  | .system fault => fault.message
  | .nul => "embedded null byte"

namespace Location

/-- The working directory. -/
def here : Location := ⟨.above 0, []⟩

def up (place : Location) : Location :=
  match place.names, place.anchor with
  | _ :: rest, anchor => ⟨anchor, rest⟩
  | [], .above levels => ⟨.above (levels + 1), []⟩
  | [], .absolute => ⟨.absolute, []⟩

def path (place : Location) : Path :=
  match place.anchor with
  | .above levels => ⟨.relative, List.replicate levels ".." ++ place.names.reverse⟩
  | .absolute => ⟨.absolute, place.names.reverse⟩

/-- The place of a name in a directory. -/
def down (place : Location) (name : String) : Location := ⟨place.anchor, name :: place.names⟩

end Location

namespace FileTree

def empty : FileTree := ⟨[]⟩

def node? (tree : FileTree) (place : Location) : Option Node :=
  if place.names.isEmpty then some .directory else tree.nodes.lookup place

/-- The longest name that a directory can hold, in bytes. -/
def longestName : Nat := 255

/-- The longest path that the system takes, in bytes. -/
def longestPath : Nat := 4095

/-- Walk from a directory along components; all but the last place must be directories. An empty
    component and `.` stay where they are. -/
def walk (tree : FileTree) (subject : String) : Location → List String → Except SystemFault Location
  | place, [] => .ok place
  | place, part :: parts =>
    match tree.node? place with
    | none => .error (.missing subject)
    | some (.file ..) => .error (.notDirectory subject)
    | some .directory =>
      if part = "" ∨ part = "." then tree.walk subject place parts
      else if part = ".." then tree.walk subject place.up parts
      else if part.utf8ByteSize > longestName then .error (.tooLong subject)
      else tree.walk subject (place.down part) parts

/-- The place that a path leads to, which may be free. -/
def locate (tree : FileTree) (path : String) : Except AccessFault Location :=
  if path.toList.contains '\x00' then .error .nul
  else if path.isEmpty then .error (.system (.missing path))
  else if path.utf8ByteSize > longestPath then .error (.system (.tooLong path))
  else
    let start : Location :=
      if Path.rootOf path.toList = .relative then .here else ⟨.absolute, []⟩
    match tree.walk path start ((Text.splitAt '/' path.toList).map String.ofList) with
    | .ok place => .ok place
    | .error fault => .error (.system fault)

/-- What a path leads to, if anything. -/
def at? (tree : FileTree) (path : String) : Option Node :=
  match tree.locate path with
  | .ok place => tree.node? place
  | .error _ => none

/-- Whether a path leads to a file. -/
def isFile (tree : FileTree) (path : String) : Bool :=
  match tree.at? path with
  | some (.file ..) => true
  | _ => false

/-- Look for a file. A path that the system cannot even look up is a fault; one that leads nowhere or
    to a directory is not. -/
def findFile (tree : FileTree) (path : String) : Except SystemFault Bool :=
  match tree.locate path with
  | .ok place =>
    match tree.node? place with
    | some (.file ..) => .ok true
    | _ => .ok false
  | .error .nul => .ok false
  -- 36: the path or a name in it is too long.
  | .error (.system fault) => if fault.code = 36 then .error fault else .ok false

/-- Whether a path leads to a directory. -/
def isDirectory (tree : FileTree) (path : String) : Bool :=
  match tree.at? path with
  | some .directory => true
  | _ => false

/-- Whether a path leads to a file that can be run. -/
def isExecutable (tree : FileTree) (path : String) : Bool :=
  match tree.at? path with
  | some (.file _ executable) => executable
  | _ => false

def read (tree : FileTree) (path : String) : Except AccessFault Bytes := do
  let place ← tree.locate path
  match tree.node? place with
  | some (.file content _) => .ok content
  | some .directory => .error (.system (.isDirectory path))
  | none => .error (.system (.missing path))

/-- Put a node at a place: a taken place keeps its position, a free one comes last. -/
def put (tree : FileTree) (place : Location) (node : Node) : FileTree :=
  if tree.nodes.any (·.1 = place) then
    ⟨tree.nodes.map fun entry => if entry.1 = place then (place, node) else entry⟩
  else ⟨tree.nodes ++ [(place, node)]⟩

/-- Write a file, new or in place of the one that is there. -/
def write (tree : FileTree) (path : String) (content : Bytes) : Except AccessFault FileTree := do
  let place ← tree.locate path
  match tree.node? place with
  | some (.file _ executable) => .ok (tree.put place (.file content executable))
  | some .directory => .error (.system (.isDirectory path))
  | none =>
    match tree.node? place.up with
    | some .directory => .ok (tree.put place (.file content false))
    | some (.file ..) => .error (.system (.notDirectory path))
    | none => .error (.system (.missing path))

def makeDirectory (tree : FileTree) (path : String) : Except AccessFault FileTree := do
  let place ← tree.locate path
  match tree.node? place with
  | some _ => .error (.system (.present path))
  | none =>
    match tree.node? place.up with
    | some .directory => .ok (tree.put place .directory)
    | some (.file ..) => .error (.system (.notDirectory path))
    | none => .error (.system (.missing path))

/-- Make a directory that may be there already; its parent must be there. -/
def ensureDirectory (tree : FileTree) (path : Path) : Except AccessFault FileTree :=
  match tree.makeDirectory path.toString with
  | .ok grown => .ok grown
  | .error .nul => .error .nul
  | .error (.system fault) =>
    -- 2: the directory above is missing, so this one cannot be there either.
    if fault.code ≠ 2 ∧ tree.isDirectory path.toString then .ok tree else .error (.system fault)

/-- A tree after an attempt to change it, and why the attempt did not get to its end. -/
abbrev Attempt := FileTree × Option AccessFault

/-- The outcome of a change that is made as a whole or not at all. -/
def attempt (tree : FileTree) (change : FileTree → Except AccessFault FileTree) : Attempt :=
  match change tree with
  | .ok grown => (grown, none)
  | .error fault => (tree, some fault)

/-- Make a directory and the ones above it. The fuel is the number of components. -/
def makeDirectoriesAux : Nat → FileTree → Path → Attempt
  | 0, tree, path => tree.attempt (·.ensureDirectory path)
  | fuel + 1, tree, path =>
    match tree.makeDirectory path.toString with
    -- The directories above come first, and then another attempt.
    | .error (.system ⟨2, _⟩) =>
      match makeDirectoriesAux fuel tree path.parent with
      | (grown, none) => grown.attempt (·.ensureDirectory path)
      | stopped => stopped
    | _ => tree.attempt (·.ensureDirectory path)

/-- Make a directory and the ones above it, as far as they are not there. The ones that were made before
    a fault stay. -/
def makeDirectories (tree : FileTree) (path : Path) : Attempt :=
  makeDirectoriesAux path.parts.length tree path

/-- Take away a directory and everything in it. -/
def removeDirectory (tree : FileTree) (path : String) : FileTree :=
  match tree.locate path with
  | .error _ => tree
  | .ok place =>
    ⟨tree.nodes.filter fun entry =>
      !(entry.1.anchor = place.anchor && place.names.isSuffixOf entry.1.names)⟩

/-- The files that have come to be or have changed since an earlier state, the executables apart. -/
def filesSince (tree before : FileTree) : List (Location × Bytes) :=
  tree.nodes.filterMap fun (place, node) =>
    match node with
    | .file content false => if before.node? place = some node then none else some (place, content)
    | _ => none

end FileTree

end ShaderBuild
