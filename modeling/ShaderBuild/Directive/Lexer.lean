import ShaderBuild.Directive.Token

/-! # Reading directive tokens

The text is read from the left. Every token is as long as its kind allows, and a string ends at the
first quotation mark that no backslash protects.
-/

namespace ShaderBuild.Directive

/-- The rest of a string literal: everything up to and with the closing quotation mark, and the text
    after it. -/
def closeString? : List Char → Option (List Char × List Char)
  | [] => none
  | '"' :: rest => some (['"'], rest)
  | '\\' :: c :: rest => (closeString? rest).map fun (body, after) => ('\\' :: c :: body, after)
  | c :: rest =>
    if c = '\\' then none else (closeString? rest).map fun (body, after) => (c :: body, after)

/-- What stands at the front of a text. -/
inductive Lexeme where
  /-- A run of blanks. -/
  | blank (text after : List Char)
  | token (kind : Kind) (text after : List Char)
  /-- No token starts here. -/
  | refused
  deriving Repr

namespace Lexeme

/-- The longest run of characters with a property, after a first one. -/
def run (make : List Char → List Char → Lexeme) (p : Char → Bool) (first : Char) (rest : List Char) :
    Lexeme :=
  make (first :: rest.takeWhile p) (rest.dropWhile p)

/-- Read the lexeme that starts with the character `first`. -/
def read (first : Char) (rest : List Char) : Lexeme :=
  if Text.isBlank first then run .blank Text.isBlank first rest
  else if first = '"' then
    match closeString? rest with
    | some (body, after) => .token .string ('"' :: body) after
    | none => .refused
  else if first.isDigit then run (.token .number) isNumberPart first rest
  else if isIdentStart first then run (.token .ident) isIdentPart first rest
  else if first = '=' then .token .equals ['='] rest
  else if first = ',' then .token .separator [','] rest
  else .refused

end Lexeme

/-- The stretch of text that a failed reading reports: up to the next blank, without blanks before. -/
structure BadLexeme where
  text : String
  offset : Nat
  deriving Repr, DecidableEq

/-- A text that starts with an opening quotation mark can only fail for want of a closing one. -/
def BadLexeme.isUnterminated (bad : BadLexeme) : Bool := bad.text.toList.head? == some '"'

/-- The tokens of a text, and where reading stopped if it did not reach the end. -/
structure Scan where
  tokens : List Token
  stop? : Option BadLexeme
  deriving Repr

def Scan.push (token : Token) (scan : Scan) : Scan := { scan with tokens := token :: scan.tokens }

/-- Read a text from the given offset on. The fuel is its length; every lexeme takes a character. -/
def scanFrom : (fuel offset : Nat) → List Char → Scan
  | 0, _, _ => ⟨[], none⟩
  | _ + 1, _, [] => ⟨[], none⟩
  | fuel + 1, offset, first :: rest =>
    match Lexeme.read first rest with
    | .blank text after => scanFrom fuel (offset + text.length) after
    | .token kind text after =>
      (scanFrom fuel (offset + text.length) after).push ⟨kind, String.ofList text, offset⟩
    | .refused => ⟨[], some ⟨String.ofList (Text.firstWord (first :: rest)), offset⟩⟩

def scan (text : String) : Scan := scanFrom text.length 0 text.toList

end ShaderBuild.Directive
