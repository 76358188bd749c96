/-! # Excerpts

A text that would be too long for a message is shown by its start and its end. Lengths are counted in
bytes, and no character is cut in two.
-/

namespace ShaderBuild.Text

/-- The most bytes of a text that is shown in full. -/
def longestShown : Nat := 50

/-- As many characters from the front as `room` bytes hold. -/
def takeBytes (room : Nat) : List Char → List Char
  | [] => []
  | c :: rest => if c.utf8Size ≤ room then c :: takeBytes (room - c.utf8Size) rest else []

/-- A text, or its first 25 and its last 24 bytes with dots between them. -/
def excerpt (text : String) : String :=
  if text.utf8ByteSize ≤ longestShown then text
  else
    let chars := text.toList
    String.ofList (takeBytes 25 chars ++ "...".toList ++ (takeBytes 24 chars.reverse).reverse)

end ShaderBuild.Text
