import ShaderBuild.Text.Blank

/-! # Directive tokens

A directive list such as `hlsl, vert, I "inc", D N="2"` is cut into identifiers, strings, numbers,
equals signs and separators. Blanks stand between tokens and belong to none.
-/

namespace ShaderBuild.Directive

/-- The kinds of token. -/
inductive Kind where
  | ident
  | string
  | number
  | equals
  | separator
  deriving Repr, DecidableEq

/-- A token and the position in the text at which it starts. Tokens that do not come from a text may
    stand at any position. -/
structure Token where
  kind : Kind
  text : String
  offset : Int
  deriving Repr, DecidableEq

/-- What the character after a backslash stands for. All but a few stand for themselves. -/
def escaped : Char → Char
  | 'n' => '\n'
  | 't' => '\t'
  | 'r' => '\r'
  | '0' => '\x00'
  | c => c

/-- The text between the quotation marks of a string, with its escapes undone. A backslash at the very
    end stands for itself. -/
def unescape : List Char → List Char
  | [] => []
  | '\\' :: c :: rest => escaped c :: unescape rest
  | c :: rest => c :: unescape rest

/-- What a token stands for: a string token for the text it encloses, any other for its own text. -/
def Token.value (token : Token) : String :=
  match token.kind with
  | .string => String.ofList (unescape (token.text.toList.drop 1).dropLast)
  | _ => token.text

def isIdentStart (c : Char) : Bool := c.isAlpha || c == '_'

def isIdentPart (c : Char) : Bool := c.isAlphanum || c == '_'

def isNumberPart (c : Char) : Bool := c.isAlphanum || c == '_' || c == '.'

end ShaderBuild.Directive
