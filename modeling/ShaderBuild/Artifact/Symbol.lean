/-! # Symbols

The name under which generated code declares a shader.
-/

namespace ShaderBuild.Artifact

/-- A character that may stand in a symbol. -/
def isSymbolPart (c : Char) : Bool := c.isAlphanum || c == '_'

/-- Keep the characters of a symbol and write an underscore for any other. -/
def maskSymbol (text : List Char) : List Char := text.map fun c => if isSymbolPart c then c else '_'

/-- The symbol for a name. A symbol is not empty and does not start with a digit. -/
def symbolChars (name : List Char) : List Char :=
  match maskSymbol name with
  | [] => ['_']
  | first :: rest => if first.isDigit then '_' :: first :: rest else first :: rest

def symbol (name : String) : String := String.ofList (symbolChars name.toList)

end ShaderBuild.Artifact
