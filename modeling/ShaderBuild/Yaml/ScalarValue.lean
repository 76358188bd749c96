import ShaderBuild.Decimal.Integer
import ShaderBuild.Text.Base64
import ShaderBuild.Text.Lowercase
import ShaderBuild.Yaml.Resolution

/-! # Values of YAML scalars

The value that a text stands for, once its kind is known.
-/

namespace ShaderBuild.Yaml

namespace Scalar

/-- Read an integer text in a base. In base ten the digits are counted first, whatever comes after
    them. -/
def integerIn (base : Nat) (text : List Char) : Except Fault Int :=
  let digits := (Decimal.splitInteger base text).2.takeWhile Char.isDigit
  if base = 10 ∧ digits.length > Decimal.longestInteger then .error (.longInteger digits.length)
  else
    match Decimal.readInteger? base text with
    | none => .error (.integer base (String.ofList text))
    | some n => .ok n

/-- Put together the places of a number in base sixty, the highest first. -/
def sexagesimal (places : List Int) : Int := places.foldl (fun value place => 60 * value + place) 0

/-- The size of an integer that is written without its sign. -/
def integerSize (text : List Char) : Except Fault Int :=
  match text with
  | [] => .error .emptyNumber
  | ['0'] => .ok 0
  | '0' :: 'b' :: digits => integerIn 2 digits
  | '0' :: 'x' :: digits => integerIn 16 digits
  | '0' :: _ => integerIn 8 text
  | _ =>
    if text.contains ':' then
      ((Text.splitAt ':' text).mapM (integerIn 10)).map sexagesimal
    else integerIn 10 text

/-- The integer that a text stands for. Underscores do not count. -/
def integer (text : String) : Except Fault Int :=
  let (negative, size) := Decimal.takeSign (text.toList.filter (· ≠ '_'))
  (integerSize size).map fun n => if negative then -n else n

def floatOf (text : List Char) : Except Fault Float :=
  match Decimal.readFloat? text with
  | some x => .ok x
  | none => .error (.float (String.ofList text))

/-- The float nearest to a natural number, if it is finite. -/
def nearestFloat? (n : Nat) : Option Float :=
  let x := Decimal.toFloat false n 0
  if x.toBits < 0x7FF0000000000000 then some x else none

/-- Add up the places of a float in base sixty, the lowest first. The unit of every place has to be a
    float, whatever stands there. -/
def addPlaces : Float → Nat → List Float → Except Fault Float
  | total, _, [] => .ok total
  | total, unit, place :: places =>
    match nearestFloat? unit with
    | some x => addPlaces (total + place * x) (unit * 60) places
    | none => .error .unboundedPlace

/-- The size of a float that is written without its sign. -/
def floatSize (text : List Char) : Except Fault Float :=
  if text = ".inf".toList then .ok (1.0 / 0.0)
  else if text = ".nan".toList then .ok (0.0 / 0.0)
  else if text.contains ':' then do
    let places ← (Text.splitAt ':' text).mapM floatOf
    addPlaces 0.0 1 places.reverse
  else floatOf text

/-- The float that a text stands for. Underscores and the case of letters do not count. -/
def float (text : String) : Except Fault Float :=
  let chars := Text.lower (text.toList.filter (· ≠ '_'))
  if chars.isEmpty then .error .emptyNumber
  else
    let (negative, size) := Decimal.takeSign chars
    (floatSize size).map fun x => if negative then -x else x

/-- The value of a scalar of a kind. -/
def value (kind : Kind) (text : String) : Except Fault Value :=
  match kind with
  | .null => .ok .null
  | .bool =>
    match Kind.truthWords.lookup (String.ofList (Text.lower text.toList)) with
    | some b => .ok (.bool b)
    | none => .error (.truth (String.ofList (Text.lower text.toList)))
  | .int => (integer text).map .int
  | .float => (float text).map .float
  | .timestamp =>
    match WrittenMoment.read? (Kind.withoutFinalBreak text.toList) with
    | some moment => moment.value.mapError .moment
    | none => .error .notMoment
  | .binary =>
    if text.toList.all fun c => c.toNat < 128 then
      match Text.Base64.decode? text.toList with
      | some bytes => .ok (.bytes bytes)
      | none => .error .malformed
    else .error .malformed
  | .text => .ok (.str text)
  | _ => .error .malformed

/-- Whether a text is the plain word for what is no number. All floats with this text are one and the
    same, so as keys they are one key. -/
def isPlainNaN (text : String) : Bool :=
  (Decimal.takeSign (Text.lower (text.toList.filter (· ≠ '_')))).2 == ".nan".toList

end Scalar

end ShaderBuild.Yaml
