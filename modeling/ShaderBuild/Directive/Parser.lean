import ShaderBuild.Directive.Directive
import ShaderBuild.Directive.Lexer
import ShaderBuild.Directive.SyntaxError

/-! # Parsing directive lists

Directives stand between separators; one separator may also stand before the first and after the last
directive. A directive list can be given as text, as texts that are joined by separators, or as tokens
that are already there.
-/

namespace ShaderBuild.Directive

/-- A mistake found while reading tokens, with the token it shows at. Without a token it shows at the
    end of the input. -/
structure Blame where
  mistake : Mistake
  token? : Option Token
  deriving Repr, DecidableEq

/-- Take a token of one of the given kinds. -/
def expect (mistake : Mistake) (kinds : List Kind) :
    List Token → Except Blame (Token × List Token)
  | [] => .error ⟨mistake, none⟩
  | token :: rest =>
    if token.kind ∈ kinds then .ok (token, rest) else .error ⟨mistake, some token⟩

def parseIncludeDir (tokens : List Token) : Except Blame (Directive × List Token) := do
  let (dir, rest) ← expect .missingIncludeDir [.string] tokens
  return (.includeDir dir.value, rest)

/-- Read what follows the keyword `D`. An equals sign after the name commits to a value. -/
def parseDefine (tokens : List Token) : Except Blame (Directive × List Token) := do
  let (name, rest) ← expect .missingMacroName [.ident] tokens
  match rest with
  | ⟨.equals, _, _⟩ :: rest =>
    let (value, rest) ← expect (.missingMacroValue name.text) [.string, .ident, .number] rest
    return (.define name.text (some value.value), rest)
  | _ => return (.define name.text none, rest)

def parseEntryPoint (tokens : List Token) : Except Blame (Directive × List Token) := do
  let (_, rest) ← expect .missingEntryEquals [.equals] tokens
  let (name, rest) ← expect .missingEntryName [.string, .ident] rest
  return (.entryPoint name.value, rest)

def parseOne (tokens : List Token) : Except Blame (Directive × List Token) := do
  let (keyword, rest) ← expect .missingKeyword [.ident] tokens
  match Flag.ofWord? keyword.text with
  | some chosen => return (.flag chosen, rest)
  | none =>
    if keyword.text = "I" then parseIncludeDir rest
    else if keyword.text = "D" then parseDefine rest
    else if keyword.text = "entry" then parseEntryPoint rest
    else .error ⟨.unknownKeyword, some keyword⟩

/-- Read directives up to the end. The fuel is the number of tokens; every directive takes one. -/
def parseMany : Nat → List Token → Except Blame (List Directive)
  | 0, _ => .ok []
  | _ + 1, [] => .ok []
  | fuel + 1, tokens => do
    let (directive, rest) ← parseOne tokens
    match rest with
    | [] => return [directive]
    | separator :: rest =>
      if separator.kind = .separator then
        return directive :: (← parseMany fuel rest)
      else .error ⟨.missingComma, some separator⟩

def parseTokens (tokens : List Token) : Except Blame (List Directive) :=
  match tokens with
  | ⟨.separator, _, _⟩ :: rest => parseMany tokens.length rest
  | _ => parseMany tokens.length tokens

/-- The place of a mistake in a token list that ends at offset `finish`. A token is looked for in the
    list, so of several equal tokens the first is named. -/
def Blame.locate (tokens : List Token) (finish : Int) (blame : Blame) : SyntaxError :=
  match blame.token? with
  | none => ⟨blame.mistake, endOfInput, tokens.length, finish⟩
  | some token => ⟨blame.mistake, token.text, tokens.idxOf token, token.offset⟩

end Directive

/-- A directive list as it is given. -/
inductive DirectiveSource where
  | text (text : String)
  /-- One or more directives in each item. -/
  | items (items : List String)
  | tokens (tokens : List Directive.Token)
  deriving Repr

namespace Directive

/-- The mistake that a failed scan amounts to. -/
def BadLexeme.toError (bad : BadLexeme) (index : Nat) : SyntaxError :=
  ⟨if bad.isUnterminated then .unterminatedString else .unexpectedCharacter, bad.text, index,
    bad.offset⟩

def tokenize (text : String) : Except SyntaxError (List Token) :=
  let scanned := scan text
  match scanned.stop? with
  | some bad => .error (bad.toError scanned.tokens.length)
  | none => .ok scanned.tokens

/-- The offset at which a list of tokens ends. -/
def endOf (tokens : List Token) : Int :=
  match tokens.getLast? with
  | some token => token.offset + token.text.length
  | none => 0

/-- The tokens of a directive list and the offset at which it ends. -/
def tokensOf : DirectiveSource → Except SyntaxError (List Token × Int)
  | .text text => (tokenize text).map fun tokens => (tokens, (text.length : Int))
  | .items [] => .ok ([], 0)
  | .items items =>
    let text := ", ".intercalate items
    (tokenize text).map fun tokens => (tokens, (text.length : Int))
  | .tokens tokens => .ok (tokens, endOf tokens)

def parseDirectives (source : DirectiveSource) : Except SyntaxError (List Directive) := do
  let (tokens, finish) ← tokensOf source
  match parseTokens tokens with
  | .ok directives => .ok directives
  | .error blame => .error (blame.locate tokens finish)

/-- The config that a directive list makes of the given defaults. -/
def parseConfig (defaults : Config) (source : DirectiveSource) : Except SyntaxError Config :=
  (parseDirectives source).map (applyAll defaults)

end Directive

end ShaderBuild
