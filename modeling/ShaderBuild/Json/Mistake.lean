import ShaderBuild.Decimal.Limit

/-! # Mistakes in JSON texts

A mistake is named together with the line, the column and the position of the character at which it
shows.
-/

namespace ShaderBuild.Json

/-- What is wrong with a text. -/
inductive Mistake where
  | byteOrderMark
  | expectedValue
  | expectedName
  | expectedColon
  | expectedComma
  | unterminatedString
  | controlCharacter
  | badEscape
  | badCodeEscape
  | extraData
  deriving Repr, DecidableEq

def Mistake.text : Mistake → String
  | .byteOrderMark => "Unexpected UTF-8 BOM (decode using utf-8-sig)"
  | .expectedValue => "Expecting value"
  | .expectedName => "Expecting property name enclosed in double quotes"
  | .expectedColon => "Expecting ':' delimiter"
  | .expectedComma => "Expecting ',' delimiter"
  | .unterminatedString => "Unterminated string starting at"
  | .controlCharacter => "Invalid control character at"
  | .badEscape => "Invalid \\escape"
  | .badCodeEscape => "Invalid \\uXXXX escape"
  | .extraData => "Extra data"

/-- Why a text cannot be read. -/
inductive Fault where
  /-- A mistake, and the text before it. -/
  | misread (mistake : Mistake) (before : List Char)
  /-- An integer with more digits than are read. -/
  | longInteger (digits : Nat)
  /-- Objects and arrays that are nested too deeply. -/
  | nested
  deriving Repr, DecidableEq

/-- The text of a fault. Lines and columns count from one. -/
def Fault.message : Fault → String
  | .longInteger digits => Decimal.unreadableMessage digits
  | .nested => "the text is nested too deeply"
  | .misread mistake before =>
    let line := before.count '\n' + 1
    let column := (before.reverse.takeWhile (· ≠ '\n')).length + 1
    s!"{mistake.text}: line {line} column {column} (char {before.length})"

end ShaderBuild.Json
