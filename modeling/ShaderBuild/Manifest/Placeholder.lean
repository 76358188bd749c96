import ShaderBuild.Text.Blank

/-! # Placeholders

A placeholder is a name in braces after a dollar sign. A second dollar sign in front makes it stand
for itself. All other characters, dollar signs among them, are plain text.
-/

namespace ShaderBuild.Manifest

/-- A piece of a text with placeholders. -/
inductive Piece where
  | char (c : Char)
  /-- A placeholder for the value of a variable. -/
  | variable (name : String)
  /-- A placeholder that stands for its own text. -/
  | escaped (name : String)
  deriving Repr, DecidableEq

namespace Piece

/-- A character that starts the name in a placeholder. -/
def isStart (c : Char) : Bool := c.isAlpha || c == '_'

/-- A character that continues the name in a placeholder. -/
def isPart (c : Char) : Bool := c.isAlphanum || c == '_'

/-- Read a name in braces: the name and the text after it. -/
def braced? : List Char → Option (String × List Char)
  | '{' :: first :: rest =>
    if isStart first then
      match rest.dropWhile isPart with
      | '}' :: after => some (String.ofList (first :: rest.takeWhile isPart), after)
      | _ => none
    else none
  | _ => none

/-- Read the placeholder that a text starts with, escaped or not. -/
def placeholder? : List Char → Option (Piece × List Char)
  | '$' :: rest =>
    match rest with
    | '$' :: inner => (braced? inner).map fun (name, after) => (.escaped name, after)
    | _ => (braced? rest).map fun (name, after) => (.variable name, after)
  | _ => none

/-- The pieces of a text. The fuel is its length. -/
def ofCharsAux : Nat → List Char → List Piece
  | 0, _ => []
  | _ + 1, [] => []
  | fuel + 1, c :: rest =>
    match placeholder? (c :: rest) with
    | some (piece, after) => piece :: ofCharsAux fuel after
    | none => .char c :: ofCharsAux fuel rest

def ofString (text : String) : List Piece := ofCharsAux text.length text.toList

/-- A name as it stands in a placeholder. -/
def bracedText (name : String) : String := "$\x7b" ++ name ++ "\x7d"

end Piece

end ShaderBuild.Manifest
