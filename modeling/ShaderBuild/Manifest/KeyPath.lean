/-! # Key paths

Where a value stands in a manifest.
-/

namespace ShaderBuild.Manifest

/-- A step from a value into one of its members. -/
inductive Key where
  | name (text : String)
  | index (position : Int)
  deriving Repr, DecidableEq

namespace Key

/-- The step for a value that is taken for a text, where another shape is allowed too. -/
def asText : Key := .name "str"

/-- The step for a value that is taken for a list of texts, where another shape is allowed too. -/
def asTexts : Key := .name "list[str]"

/-- The steps that lead to no member but say which of several shapes is meant. No member that has a
    problem is named like one of them. -/
def shapes : List Key := [asText, asTexts]

end Key

/-- The steps from the outermost value on. -/
abbrev KeyPath := List Key

/-- Continue the text of a path by one step. A name is set off by a dot unless nothing stands before
    it. -/
def extendPathText (text : String) : Key → String
  | .index position => s!"{text}[{position}]"
  | .name name => if text.isEmpty then name else s!"{text}.{name}"

/-- A path as it reads in the manifest; the manifest itself has a name of its own. -/
def pathText (path : KeyPath) : String :=
  let text := path.foldl extendPathText ""
  if text.isEmpty then "<manifest>" else text

end ShaderBuild.Manifest
