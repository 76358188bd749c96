/-! # Include lines

A shader can take in other files. A relative include names a file next to the one that includes it; a
standard include names a file that is looked for in a list of directories.
-/

namespace ShaderBuild

/-- How an included file is looked for. -/
inductive IncludeKind where
  /-- The name stands in quotation marks. -/
  | relative
  /-- The name stands in angle brackets. -/
  | standard
  deriving Repr, DecidableEq

/-- The word for a kind of include. -/
def IncludeKind.word : IncludeKind → String
  | .relative => "relative"
  | .standard => "standard"

/-- An include as it is written. -/
structure Include where
  name : String
  kind : IncludeKind
  deriving Repr, DecidableEq

namespace Include

def isGap (c : Char) : Bool := c == ' ' || c == '\t'

/-- A text without its leading spaces and tabs. -/
def skipGap (text : List Char) : List Char := text.dropWhile isGap

/-- Read a name that ends before the character `close`. It may not be empty. -/
def nameUpTo? (close : Char) (text : List Char) : Option (List Char × List Char) :=
  let name := text.takeWhile (· != close)
  match text.dropWhile (· != close) with
  | _ :: after => if name.isEmpty then none else some (name, after)
  | [] => none

/-- The text after the word `include` and the hash before it. -/
def afterKeyword? (text : List Char) : Option (List Char) :=
  match skipGap text with
  | '#' :: rest =>
    match skipGap rest with
    | 'i' :: 'n' :: 'c' :: 'l' :: 'u' :: 'd' :: 'e' :: rest => some (skipGap rest)
    | _ => none
  | _ => none

/-- Read an include that a line starts with, and the text after it. -/
def atLineStart? (text : List Char) : Option (Include × List Char) :=
  match afterKeyword? text with
  | some ('"' :: rest) =>
    (nameUpTo? '"' rest).map fun (name, after) => (⟨String.ofList name, .relative⟩, after)
  | some ('<' :: rest) =>
    (nameUpTo? '>' rest).map fun (name, after) => (⟨String.ofList name, .standard⟩, after)
  | _ => none

/-- Find the includes from here on; `fresh` says whether a line starts here. The fuel is the length of
    the text, of which an include takes several characters. -/
def scanFrom : Nat → Bool → List Char → List Include
  | 0, _, _ => []
  | _ + 1, _, [] => []
  | fuel + 1, fresh, c :: rest =>
    match (if fresh then atLineStart? (c :: rest) else none) with
    | some (found, after) => found :: scanFrom fuel false after
    | none => scanFrom fuel (c == '\n') rest

/-- Every include line of a source, in order. Conditions around them do not count. -/
def scan (source : String) : List Include := scanFrom source.length true source.toList

end Include

end ShaderBuild
