import ShaderBuild.Decimal.Literal
import ShaderBuild.Json.Mistake
import ShaderBuild.Text.Hexadecimal
import ShaderBuild.Value

/-! # Strings and numbers of JSON

Readers for the leaves of a JSON text. Each takes the text at which the leaf starts and gives the
leaf with the text after it. A mistake is reported with the text at which it shows.
-/

namespace ShaderBuild.Json

/-- A mistake and the text at which it shows. -/
structure Failure where
  mistake : Mistake
  rest : List Char
  deriving Repr, DecidableEq

/-- The code of four hexadecimal digits. The text must go on after them. -/
def fourDigits? : List Char → Option (Nat × List Char)
  | a :: b :: c :: d :: e :: rest =>
    (Text.hexNumber? [a, b, c, d]).map fun code => (code, e :: rest)
  | _ => none

/-- The first half of a pair of codes for one character. -/
def isHighHalf (code : Nat) : Bool := 0xD800 ≤ code && code ≤ 0xDBFF

/-- The second half of a pair of codes for one character. -/
def isLowHalf (code : Nat) : Bool := 0xDC00 ≤ code && code ≤ 0xDFFF

/-- The character for a code. A half without its partner stands for no character, so all such halves are
    read as one. -/
def codeChar (code : Nat) : Char :=
  if isHighHalf code || isLowHalf code then '\uFFFD' else Char.ofNat code

/-- The character for a pair of halves. -/
def pairChar (high low : Nat) : Char :=
  Char.ofNat (0x10000 + (high - 0xD800) * 0x400 + (low - 0xDC00))

/-- Read a character that is written as a code, from the `u` on. -/
def readCode (text : List Char) : Except Failure (Char × List Char) :=
  match fourDigits? (text.drop 1) with
  | none => .error ⟨.badCodeEscape, text⟩
  | some (code, rest) =>
    match rest with
    | '\\' :: 'u' :: digits =>
      if isHighHalf code ∧ digits.length ≥ 5 then
        match fourDigits? digits with
        | none => .error ⟨.badCodeEscape, 'u' :: digits⟩
        | some (low, after) =>
          if isLowHalf low then .ok (pairChar code low, after) else .ok (codeChar code, rest)
      else .ok (codeChar code, rest)
    | _ => .ok (codeChar code, rest)

/-- The character that a letter after a backslash stands for. -/
def escapes : List (Char × Char) :=
  [('"', '"'), ('\\', '\\'), ('/', '/'), ('b', '\x08'), ('f', '\x0C'), ('n', '\n'), ('r', '\r'),
   ('t', '\t')]

/-- Read the rest of a string whose opening quotation mark starts the text `opening`. The fuel is the
    length of the text. -/
def readStringRest (opening : List Char) : Nat → List Char → Except Failure (List Char × List Char)
  | 0, _ => .error ⟨.unterminatedString, opening⟩
  | _ + 1, [] => .error ⟨.unterminatedString, opening⟩
  | _ + 1, '"' :: rest => .ok ([], rest)
  | fuel + 1, '\\' :: rest =>
    match rest with
    | [] => .error ⟨.unterminatedString, opening⟩
    | 'u' :: _ => do
      let (c, rest) ← readCode rest
      let (cs, rest) ← readStringRest opening fuel rest
      return (c :: cs, rest)
    | letter :: after =>
      match escapes.lookup letter with
      | none => .error ⟨.badEscape, '\\' :: rest⟩
      | some c => do
        let (cs, rest) ← readStringRest opening fuel after
        return (c :: cs, rest)
  | fuel + 1, c :: rest =>
    if c.toNat < 0x20 then .error ⟨.controlCharacter, c :: rest⟩
    else do
      let (cs, rest) ← readStringRest opening fuel rest
      return (c :: cs, rest)

/-- Read a string, from its opening quotation mark on. -/
def readString (text : List Char) : Except Failure (String × List Char) := do
  let (cs, rest) ← readStringRest text text.length (text.drop 1)
  return (String.ofList cs, rest)

/-- The digits of the whole part of a number: a zero alone or digits without leading zero. -/
def wholePart (text : List Char) : List Char × List Char :=
  match text with
  | '0' :: rest => (['0'], rest)
  | _ => (text.takeWhile Char.isDigit, text.dropWhile Char.isDigit)

/-- The digits after a point, if the point is followed by one. -/
def fractionPart (text : List Char) : List Char × List Char :=
  match text with
  | '.' :: rest =>
    if (rest.takeWhile Char.isDigit).isEmpty then ([], text)
    else (rest.takeWhile Char.isDigit, rest.dropWhile Char.isDigit)
  | _ => ([], text)

/-- The exponent, if its mark is followed by a digit. -/
def exponentPart (text : List Char) : Option Int × List Char :=
  match text with
  | c :: rest =>
    if c = 'e' ∨ c = 'E' then
      let (negative, digits) := Decimal.takeSign rest
      let taken := digits.takeWhile Char.isDigit
      if taken.isEmpty then (none, text)
      else
        let size : Int := Decimal.digitsValue taken
        (some (if negative then -size else size), digits.dropWhile Char.isDigit)
    else (none, text)
  | [] => (none, text)

/-- A number as it is written. -/
structure Number where
  negative : Bool
  whole : List Char
  fraction : List Char
  exponent? : Option Int
  deriving Repr, DecidableEq

/-- Read a number, if one starts here. -/
def readNumber? (text : List Char) : Option (Number × List Char) :=
  let (negative, unsigned) :=
    match text with
    | '-' :: rest => (true, rest)
    | _ => (false, text)
  let (whole, rest) := wholePart unsigned
  if whole.isEmpty then none
  else
    let (fraction, rest) := fractionPart rest
    let (exponent?, rest) := exponentPart rest
    some (⟨negative, whole, fraction, exponent?⟩, rest)

/-- A number without fraction and exponent is an integer. -/
def Number.isInteger (number : Number) : Bool := number.fraction.isEmpty && number.exponent?.isNone

def Number.value (number : Number) : Value :=
  if number.isInteger then
    let size : Int := Decimal.digitsValue number.whole
    .int (if number.negative then -size else size)
  else
    .float (Decimal.Literal.toFloat number.negative
      ⟨number.whole, number.fraction, number.exponent?.getD 0⟩)

end ShaderBuild.Json
