import ShaderBuild.Decimal.Limit
import ShaderBuild.Decimal.Literal

/-! # Lenient integers

A plain integer is written with a minus sign, if it is negative, and with digits of which the first is zero
only if it is alone. A text that is not plain is tidied up once: blanks around it, a plus sign, zeros
in front, a fraction of zeros and single underscores within it go.
-/

namespace ShaderBuild.Decimal

/-- Why a text is no integer. -/
inductive IntegerFault where
  | unreadable
  | oversized
  deriving Repr, DecidableEq

/-- Take a minus sign off a text. -/
def takeMinus : List Char → List Char × List Char
  | '-' :: rest => (['-'], rest)
  | rest => ([], rest)

/-- Whether a text starts with a digit other than zero. -/
def startsPlain (text : List Char) : Bool :=
  match text with
  | c :: _ => isLeading c
  | [] => false

def readPlain? (text : List Char) : Option Int :=
  let (sign, digits) := takeMinus text
  if digits = ['0'] ∨ (startsPlain digits ∧ digits.all Char.isDigit ∧ digits.length ≤ longestInteger) then
    let size : Int := digitsValue digits
    some (if sign.isEmpty then size else -size)
  else none

/-- Whether a text starts with a plain integer that is too long, whatever comes after it. -/
def startsOversized (text : List Char) : Bool :=
  let (_, rest) := takeMinus text
  startsPlain rest && (rest.takeWhile Char.isDigit).length > longestInteger

/-- A zero, or an underscore among zeros. -/
def isFiller (c : Char) : Bool := c == '0' || c == '_'

/-- An unsigned text without the zeros in front of it, among which underscores may stand. If nothing or a
    point follows them, the last of them stays. A minus sign may follow them. -/
def withoutZeros? (text : List Char) : Option (List Char) :=
  match text with
  | '0' :: rest =>
    let last := (rest.takeWhile isFiller).getLastD '0'
    match rest.dropWhile isFiller with
    | [] => some [last]
    | c :: more =>
      if c = '.' then some (last :: c :: more)
      else if isLeading c ∨ c = '-' then some (c :: more)
      else none
  | c :: _ => if isLeading c ∨ c = '-' then some text else none
  | [] => none

/-- A text without a fraction of zeros. -/
def withoutFraction (text : List Char) : List Char :=
  match text.dropWhile (· != '.') with
  | '.' :: fraction =>
    if !fraction.isEmpty && fraction.all (· == '0') then text.takeWhile (· != '.') else text
  | _ => text

/-- A text without underscores, if each of them stands alone between other characters. -/
def withoutUnderscores (text : List Char) : List Char :=
  let groups := Text.splitAt '_' text
  if groups.any List.isEmpty then text else groups.flatten

/-- A text brought to plain form, as far as that is possible. -/
def tidied? (text : List Char) : Option (List Char) :=
  let signed :=
    match trim text with
    | '+' :: '-' :: _ => none
    | '+' :: rest => withoutZeros? rest
    | '-' :: rest => (withoutZeros? rest).map ('-' :: ·)
    | rest => withoutZeros? rest
  signed.map fun found => withoutUnderscores (withoutFraction found)

/-- Read an integer. Only a text that is plain from its start can be too long. -/
def readLenient (text : List Char) : Except IntegerFault Int :=
  match readPlain? text, (tidied? text).bind readPlain? with
  | some n, _ => .ok n
  | none, tidy? =>
    if startsOversized text then .error .oversized
    else
      match tidy? with
      | some n => .ok n
      | none => .error .unreadable

end ShaderBuild.Decimal
