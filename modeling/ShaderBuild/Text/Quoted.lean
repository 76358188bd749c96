import ShaderBuild.Text.Hexadecimal
import ShaderBuild.Text.Printable

/-! # Quoted text

A text in quotation marks on one line. Single quotes are used unless the text holds a single quote
and no double quote. The mark itself, the backslash and everything that is not printable are written
as escapes.
-/

namespace ShaderBuild.Text.Quoted

def mark (text : List Char) : Char :=
  if text.contains '\'' && !text.contains '"' then '"' else '\''

/-- A code point as the shortest numeric escape that holds it. -/
def numericEscape (code : Nat) : List Char :=
  if code < 0x100 then '\\' :: 'x' :: hexFixed 2 code
  else if code < 0x10000 then '\\' :: 'u' :: hexFixed 4 code
  else '\\' :: 'U' :: hexFixed 8 code

def encodeChar (q c : Char) : List Char :=
  if c = q ∨ c = '\\' then ['\\', c]
  else if c = '\t' then ['\\', 't']
  else if c = '\n' then ['\\', 'n']
  else if c = '\r' then ['\\', 'r']
  else if isPrintable c then [c]
  else numericEscape c.toNat

def encode (text : List Char) : List Char :=
  let q := mark text
  q :: text.flatMap (encodeChar q) ++ [q]

end Quoted

/-- A string in quotation marks, on one line. -/
def quoted (text : String) : String := String.ofList (Quoted.encode text.toList)

end ShaderBuild.Text
