import ShaderBuild.Text.Blank

/-! # Paths

Paths in their normal form: separators are single, a component `.` never occurs, and `..` stays where
it was written. Exactly two leading separators are kept, since they may mean something else than one.
-/

namespace ShaderBuild

/-- What a path starts from. -/
inductive Root where
  /-- The working directory. -/
  | relative
  | absolute
  /-- Two leading separators. -/
  | doubled
  deriving Repr, DecidableEq

def Root.text : Root → String
  | .relative => ""
  | .absolute => "/"
  | .doubled => "//"

/-- A path in normal form. -/
structure Path where
  root : Root
  /-- The components, outermost first. -/
  parts : List String
  deriving Repr, DecidableEq

namespace Path

/-- The root that a text starts with. -/
def rootOf : List Char → Root
  | '/' :: '/' :: '/' :: _ => .absolute
  | '/' :: '/' :: _ => .doubled
  | '/' :: _ => .absolute
  | _ => .relative

/-- The components of a text, without the empty ones and `.`. -/
def partsOf (text : List Char) : List String :=
  ((Text.splitAt '/' text).map String.ofList).filter fun part => part ≠ "" ∧ part ≠ "."

def ofString (text : String) : Path := ⟨rootOf text.toList, partsOf text.toList⟩

/-- Write a path; one without root and components is the working directory `.`. -/
def toString (path : Path) : String :=
  if path.root = .relative ∧ path.parts = [] then "."
  else path.root.text ++ "/".intercalate path.parts

/-- A path below another one; an absolute path stands for itself. -/
def join (base path : Path) : Path :=
  if path.root = .relative then ⟨base.root, base.parts ++ path.parts⟩ else path

/-- A path below another one, given as text. -/
def below (base : Path) (text : String) : Path := base.join (ofString text)

/-- The directory of a path. A path without components is its own directory. -/
def parent (path : Path) : Path := { path with parts := path.parts.dropLast }

/-- The last component, or nothing. -/
def name (path : Path) : String := path.parts.getLast?.getD ""

/-- A file name cut before its last dot. A dot at either end of the name does not count. -/
def cutName (name : String) : String × String :=
  let fromDot := name.toList.reverse.takeWhile (· ≠ '.')
  let before := (name.toList.reverse.drop (fromDot.length + 1)).reverse
  if fromDot.isEmpty || before.isEmpty then (name, "")
  else (String.ofList before, String.ofList ('.' :: fromDot.reverse))

/-- The suffix of the last component, from its last dot on. -/
def suffix (path : Path) : String := (cutName path.name).2

def stem (path : Path) : String := (cutName path.name).1

/-- The path of a sibling with another name. -/
def withName (path : Path) (name : String) : Path :=
  { path with parts := path.parts.dropLast ++ [name] }

end Path

end ShaderBuild
