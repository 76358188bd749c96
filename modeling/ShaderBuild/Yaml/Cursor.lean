/-! # Places in a YAML text

A cursor is the rest of a text together with the position, the line and the column at which it starts.
Line ends have been brought to the form `\n` before; three other characters end a line as well.
-/

namespace ShaderBuild.Yaml

/-- A character that a text may hold. -/
def isAllowed (c : Char) : Bool :=
  c == '\t' || c == '\n' || c == '\r' || (' ' ≤ c && c ≤ '~') || c == '\x85' ||
    ('\xA0' ≤ c && c.toNat ≤ 0xFFFD) || 0x10000 ≤ c.toNat

def isBreak (c : Char) : Bool := c == '\n' || c == '\x85' || c == '\u2028' || c == '\u2029'

def isIndent (c : Char) : Bool := c == ' ' || c == '\t'

/-- A line ends here: the text does, or a character that ends a line follows. -/
def endsLine : Option Char → Bool
  | none => true
  | some c => isBreak c

/-- A line ends here or a space follows. -/
def endsWord (next? : Option Char) : Bool := endsLine next? || next? == some ' '

/-- A line ends here or a space or tab follows. -/
def endsToken (next? : Option Char) : Bool := endsWord next? || next? == some '\t'

/-- A letter of the basic alphabet, a digit, a hyphen or an underscore. -/
def isNamePart (c : Char) : Bool := c.isAlphanum || c == '-' || c == '_'

/-- A place in a text. -/
structure Cursor where
  rest : List Char
  index : Nat
  line : Nat
  column : Nat
  deriving Repr

namespace Cursor

def start (text : List Char) : Cursor := ⟨text, 0, 0, 0⟩

def peek? (cursor : Cursor) (distance : Nat) : Option Char := cursor.rest[distance]?

def next? (cursor : Cursor) : Option Char := cursor.rest.head?

/-- The place after the next character. A byte order mark takes up no column. -/
def step (cursor : Cursor) : Cursor :=
  match cursor.rest with
  | [] => cursor
  | c :: rest =>
    if isBreak c then ⟨rest, cursor.index + 1, cursor.line + 1, 0⟩
    else
      ⟨rest, cursor.index + 1, cursor.line,
        if c = '\uFEFF' then cursor.column else cursor.column + 1⟩

/-- The place after a number of characters. -/
def skip : Nat → Cursor → Cursor
  | 0, cursor => cursor
  | n + 1, cursor => skip n cursor.step

/-- The characters that satisfy `p` from here on. -/
def taken (p : Char → Bool) (cursor : Cursor) : List Char := cursor.rest.takeWhile p

/-- The place after the characters that satisfy `p`. -/
def after (p : Char → Bool) (cursor : Cursor) : Cursor := cursor.skip (cursor.taken p).length

/-- The place after the spaces that follow. -/
def afterSpaces (cursor : Cursor) : Cursor := cursor.after (· == ' ')

def lineEnd (cursor : Cursor) : Cursor := cursor.after fun c => !isBreak c

/-- The place after a comment, if one starts here. -/
def afterComment (cursor : Cursor) : Cursor :=
  if cursor.next? = some '#' then cursor.lineEnd else cursor

/-- What a line end stands for in a text: itself, if it separates lines or paragraphs, else `\n`. -/
def breakText (c : Char) : Char := if c = '\u2028' ∨ c = '\u2029' then c else '\n'

/-- Read a line end, if one is here. -/
def lineBreak? (cursor : Cursor) : Option (Char × Cursor) :=
  match cursor.next? with
  | some c => if isBreak c then some (breakText c, cursor.step) else none
  | none => none

/-- Whether three equal characters stand here with nothing attached to them. -/
def hasTriple (cursor : Cursor) (c : Char) : Bool :=
  match cursor.rest with
  | a :: b :: d :: rest => a == c && b == c && d == c && endsToken rest.head?
  | _ => false

/-- Whether a document starts or ends here, given that a line starts. -/
def hasMarker (cursor : Cursor) : Bool := cursor.hasTriple '-' || cursor.hasTriple '.'

end Cursor

end ShaderBuild.Yaml
