import ShaderBuild.Decimal.Shortest
import ShaderBuild.Text.Digit

/-! # Decimal literals

Reading numbers that are written with decimal digits, a point and an exponent.
-/

namespace ShaderBuild.Decimal

/-- A blank around a number. Separators of records do not count. -/
def isBlank (c : Char) : Bool := Text.isBlank c && !(0x1C ≤ c.toNat && c.toNat ≤ 0x1F)

/-- A text without the blanks around it. -/
def trim (text : List Char) : List Char := Text.dropWhileEnd isBlank (text.dropWhile isBlank)

/-- A number text without the blanks around it and with plain digits. -/
def normalized (text : List Char) : List Char := (trim text).map Text.plainDigit

def isLeading (c : Char) : Bool := c.isDigit && c != '0'

def digitsValue (digits : List Char) : Nat :=
  digits.foldl (fun value c => 10 * value + (c.toNat - 48)) 0

/-- An unsigned decimal literal taken apart. -/
structure Literal where
  whole : List Char
  fraction : List Char
  exponent : Int
  deriving Repr, DecidableEq

/-- The float that a literal and its sign stand for. -/
def Literal.toFloat (negative : Bool) (literal : Literal) : Float :=
  Decimal.toFloat negative (digitsValue (literal.whole ++ literal.fraction))
    (literal.exponent - literal.fraction.length)

/-- Take an optional sign off a text. -/
def takeSign : List Char → Bool × List Char
  | '-' :: rest => (true, rest)
  | '+' :: rest => (false, rest)
  | rest => (false, rest)

/-- Read an exponent that must reach to the end of the text. -/
def readExponent? : List Char → Option Int
  | [] => some 0
  | c :: rest =>
    if c = 'e' ∨ c = 'E' then
      let (negative, digits) := takeSign rest
      if digits.isEmpty ∨ !digits.all Char.isDigit then none
      else some (if negative then -(digitsValue digits : Int) else digitsValue digits)
    else none

/-- Read digits, an optional point with further digits, and an optional exponent. -/
def readLiteral? (text : List Char) : Option Literal :=
  let whole := text.takeWhile Char.isDigit
  let rest := text.dropWhile Char.isDigit
  let (fraction, tail) :=
    match rest with
    | '.' :: rest => (rest.takeWhile Char.isDigit, rest.dropWhile Char.isDigit)
    | _ => ([], rest)
  if whole.isEmpty ∧ fraction.isEmpty then none
  else (readExponent? tail).map fun exponent => ⟨whole, fraction, exponent⟩

/-- Whether a text is a word, the case of its letters left aside. -/
def sameWord (text : List Char) (word : String) : Bool := text.map Char.toLower == word.toList

/-- Read a number with its sign: a literal, infinity, or no number. Blanks around it do not count, and
    the digits may be of any script. -/
def readFloat? (text : List Char) : Option Float :=
  let (negative, rest) := takeSign (normalized text)
  if sameWord rest "inf" ∨ sameWord rest "infinity" then
    some (if negative then -(1.0 / 0.0) else 1.0 / 0.0)
  else if sameWord rest "nan" then some (0.0 / 0.0)
  else (readLiteral? rest).map (Literal.toFloat negative)

end ShaderBuild.Decimal
