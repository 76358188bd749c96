/-! # Blank characters

White space in the sense of Unicode, together with the four information
separators U+001C to U+001F. Cutting text at blanks and trimming it go by this
one class everywhere in the library.
-/

namespace ShaderBuild.Text

/-- Closed ranges of code points, ascending and apart. -/
abbrev Ranges := List (Nat × Nat)

/-- Membership of a code point in a list of closed ranges. -/
def Ranges.contains (ranges : Ranges) (code : Nat) : Bool :=
  ranges.any fun range => range.1 ≤ code && code ≤ range.2

def blankRanges : Ranges :=
  [(0x09, 0x0D), (0x1C, 0x20), (0x85, 0x85), (0xA0, 0xA0), (0x1680, 0x1680), (0x2000, 0x200A),
   (0x2028, 0x2029), (0x202F, 0x202F), (0x205F, 0x205F), (0x3000, 0x3000)]

def isBlank (c : Char) : Bool := blankRanges.contains c.toNat

def trimLeft (text : List Char) : List Char := text.dropWhile isBlank

/-- Text without the trailing characters that satisfy `p`. -/
def dropWhileEnd (p : Char → Bool) (text : List Char) : List Char :=
  (text.reverse.dropWhile p).reverse

def trimRight (text : List Char) : List Char := dropWhileEnd isBlank text

/-- Text without the blanks at its ends. -/
def trim (text : List Char) : List Char := trimRight (trimLeft text)

/-- The first word of a text: what stands between its leading blanks and the next one. -/
def firstWord (text : List Char) : List Char := (trimLeft text).takeWhile fun c => !isBlank c

/-- Cut a text at every occurrence of one character. There is always at least one piece. -/
def splitAt (sep : Char) : List Char → List (List Char)
  | [] => [[]]
  | c :: rest =>
    match splitAt sep rest with
    | [] => [[c]]
    | piece :: pieces => if c = sep then [] :: piece :: pieces else (c :: piece) :: pieces

/-- Join pieces with a separator between neighbours. -/
def joinWith (sep : List Char) : List (List Char) → List Char
  | [] => []
  | [piece] => piece
  | piece :: pieces => piece ++ sep ++ joinWith sep pieces

/-- The text after `lead`, if the text starts with it. -/
def after? : (lead text : List Char) → Option (List Char)
  | [], text => some text
  | _ :: _, [] => none
  | l :: lead, c :: text => if l = c then after? lead text else none

/-- Whether `part` occurs somewhere in the text. -/
def occursIn (part : List Char) : List Char → Bool
  | [] => part.isEmpty
  | c :: rest => (after? part (c :: rest)).isSome || occursIn part rest

/-- Replace a nonempty part by another text, scanning from the left without overlap. The fuel is the
    text's length; a match consumes at least one character of it. -/
def replaceAux (part new : List Char) : Nat → List Char → List Char
  | 0, text => text
  | _ + 1, [] => []
  | fuel + 1, c :: rest =>
    match after? part (c :: rest) with
    | some tail => new ++ replaceAux part new fuel tail
    | none => c :: replaceAux part new fuel rest

/-- Replace every occurrence of a nonempty part, scanning from the left. -/
def replace (part new text : List Char) : List Char :=
  if part.isEmpty then text else replaceAux part new text.length text

end ShaderBuild.Text
