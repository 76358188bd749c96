import ShaderBuild.Text.Blank

/-! # Reading depfiles

A compiler lists the files it has read as a rule for a build system: a target, a colon, and paths with
blanks between them. A backslash keeps a space inside a path, and one at the end of a line joins it
to the next.
-/

namespace ShaderBuild.Depfile

/-- A text with its broken lines joined. -/
def joinLines (text : List Char) : List Char :=
  Text.replace ['\\', '\n'] [' '] (Text.replace ['\\', '\r', '\n'] [' '] text)

/-- The text after the first colon that a space follows. -/
def afterSpacedColon? : List Char → Option (List Char)
  | [] => none
  | ':' :: ' ' :: rest => some rest
  | _ :: rest => afterSpacedColon? rest

def afterLastColon? (text : List Char) : Option (List Char) :=
  if text.contains ':' then some (text.reverse.takeWhile (· != ':')).reverse else none

/-- The prerequisites of a rule, as they are written. A target may hold colons itself. -/
def prerequisites? (text : List Char) : Option (List Char) :=
  match afterSpacedColon? text with
  | some rest => some rest
  | none => afterLastColon? text

/-- Cut a text at its blanks. A run of blanks after a backslash does not start with its first one,
    and what stands between two runs may be empty. `afterSlash` says whether a backslash comes
    before. -/
def cutFrom (afterSlash : Bool) : List Char → List (List Char)
  | [] => [[]]
  | c :: rest =>
    if Text.isBlank c && !afterSlash then [] :: cutFrom false rest
    else
      match cutFrom (c == '\\') rest with
      -- Out of reach: there always is a first part.
      | [] => [[c]]
      | part :: parts => (c :: part) :: parts

def unescape (path : List Char) : List Char := Text.replace ['\\', ' '] [' '] path

/-- The paths that a rule lists after its target. -/
def parse (text : String) : List String :=
  match prerequisites? (joinLines text.toList) with
  | none => []
  | some listed =>
    let parts := (cutFrom false (Text.trim listed)).filter fun part => !part.isEmpty
    parts.map fun part => String.ofList (unescape part)

end ShaderBuild.Depfile
