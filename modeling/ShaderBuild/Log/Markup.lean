import ShaderBuild.Text.Blank

/-! # Markup in log lines

The log styles its lines with tags in square brackets. Text that is not meant as markup is escaped by
backslashes before it is put into a line, and the escapes go again when the line is shown. What looks
like no tag keeps its bracket but loses a backslash in front of it.
-/

namespace ShaderBuild.Log

/-- A character that a tag can start with. -/
def isTagStart (c : Char) : Bool := ('a' ≤ c && c ≤ 'z') || c == '#' || c == '/' || c == '@'

/-- The tag that a text starts with, brackets and all, and the text after it. -/
def tag? : List Char → Option (List Char × List Char)
  | '[' :: c :: rest =>
    if isTagStart c then
      let body := (c :: rest).takeWhile fun d => d != '[' && d != ']'
      match (c :: rest).drop body.length with
      | ']' :: after => some ('[' :: body ++ [']'], after)
      | _ => none
    else none
  | _ => none

/-- A text cut into tags, each with the number of backslashes in front of it, and the text before and
    after them. -/
inductive Piece where
  | text (text : List Char)
  | tag (backslashes : Nat) (tag : List Char)
  deriving Repr, DecidableEq

/-- Put a character in front of pieces. -/
def Piece.consChar (c : Char) : List Piece → List Piece
  | .text plain :: others => .text (c :: plain) :: others
  | others => .text [c] :: others

/-- The pieces of a text. The fuel is its length. -/
def piecesAux : Nat → List Char → List Piece
  | 0, _ => []
  | _ + 1, [] => []
  | fuel + 1, c :: rest =>
    let slashes := (c :: rest).takeWhile (· == '\\')
    match tag? ((c :: rest).drop slashes.length) with
    | some (tag, after) => .tag slashes.length tag :: piecesAux fuel after
    | none => Piece.consChar c (piecesAux fuel rest)

def pieces (text : List Char) : List Piece := piecesAux text.length text

/-- A piece with its tag protected: one more backslash than twice the ones before it. -/
def Piece.protect : Piece → List Char
  | .text plain => plain
  | .tag backslashes body => List.replicate (2 * backslashes + 1) '\\' ++ body

/-- Protect the tags of a text. A single backslash at its end is doubled. -/
def escape (text : List Char) : List Char :=
  let guarded := (pieces text).flatMap Piece.protect
  match guarded.reverse with
  | '\\' :: '\\' :: _ => guarded
  | '\\' :: _ => guarded ++ ['\\']
  | _ => guarded

/-- A piece as it is shown: tags that are not protected vanish, and half of the backslashes remain. -/
def Piece.shown : Piece → List Char
  | .text plain => Text.replace ['\\', '['] ['['] plain
  | .tag backslashes body =>
    List.replicate (backslashes / 2) '\\' ++ if backslashes % 2 = 1 then body else []

/-- Characters that move the cursor and are never shown. -/
def isControl (c : Char) : Bool := [7, 8, 11, 12, 13].contains c.toNat

/-- A text as it is shown. Without a bracket there is nothing to interpret. -/
def render (text : List Char) : List Char :=
  let shown := if text.contains '[' then (pieces text).flatMap Piece.shown else text
  shown.filter fun c => !isControl c

end ShaderBuild.Log
