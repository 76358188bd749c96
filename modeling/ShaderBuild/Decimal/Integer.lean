import ShaderBuild.Decimal.Literal
import ShaderBuild.Text.Hexadecimal

/-! # Integers in a base

Integers as a reader takes them that is told their base: blanks around them, a sign and the base's own
mark are allowed, and the digits may be of any script.
-/

namespace ShaderBuild.Decimal

/-- The letter that marks a base after a zero. -/
def baseMark? : Nat → Option Char
  | 2 => some 'b'
  | 8 => some 'o'
  | 16 => some 'x'
  | _ => none

/-- Take the mark of a base off the front of a text. -/
def withoutMark (base : Nat) (text : List Char) : List Char :=
  match text, baseMark? base with
  | '0' :: letter :: rest, some mark => if letter.toLower = mark then rest else text
  | _, _ => text

/-- The number that digits of a base write. -/
def digitsIn? (base : Nat) (digits : List Char) : Option Nat :=
  digits.foldlM
    (fun value c =>
      match Text.hexValue? c with
      | some digit => if digit < base then some (base * value + digit) else none
      | none => none)
    0

/-- The digits of an integer as it is written, and its sign. -/
def splitInteger (base : Nat) (text : List Char) : Bool × List Char :=
  let (negative, rest) := takeSign (normalized text)
  (negative, withoutMark base rest)

/-- Read an integer in a base of at most sixteen. -/
def readInteger? (base : Nat) (text : List Char) : Option Int :=
  let (negative, digits) := splitInteger base text
  if digits.isEmpty then none
  else (digitsIn? base digits).map fun size => if negative then -(size : Int) else size

end ShaderBuild.Decimal
