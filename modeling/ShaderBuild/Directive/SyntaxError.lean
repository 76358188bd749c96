import ShaderBuild.Text.Quoted

/-! # Mistakes in directive lists

A mistake has a cause, the token at which it shows, the number of that token in the list and its
position in the text.
-/

namespace ShaderBuild.Directive

/-- What is wrong with a directive list. -/
inductive Mistake where
  | unterminatedString
  | unexpectedCharacter
  | missingKeyword
  | missingComma
  | unknownKeyword
  | missingIncludeDir
  | missingMacroName
  | missingMacroValue (macroName : String)
  | missingEntryEquals
  | missingEntryName
  deriving Repr, DecidableEq

def Mistake.text : Mistake → String
  | .unterminatedString => "unterminated string literal"
  | .unexpectedCharacter => "unexpected character"
  | .missingKeyword => "expected a directive keyword"
  | .missingComma => "expected ',' between directives"
  | .unknownKeyword => "unsupported compilation parameter"
  | .missingIncludeDir => "expected an include directory string after I"
  | .missingMacroName => "expected a macro name after D"
  | .missingMacroValue macroName => s!"expected a value for macro {macroName}"
  | .missingEntryEquals => "expected '=' after entry"
  | .missingEntryName => "expected an entry point name"

/-- A mistake and where it shows. -/
structure SyntaxError where
  mistake : Mistake
  token : String
  index : Nat
  offset : Int
  deriving Repr, DecidableEq

def SyntaxError.message (e : SyntaxError) : String :=
  s!"{e.mistake.text}: {Text.quoted e.token} (directive token #{e.index}, offset {e.offset})"

/-- What a mistake at the end of the input shows in place of a token. -/
def endOfInput : String := "<end of input>"

end ShaderBuild.Directive
