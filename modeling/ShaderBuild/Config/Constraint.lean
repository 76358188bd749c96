import ShaderBuild.Value

/-! # Constraints on single values

What a manifest demands of a number or a name beyond its kind.
-/

namespace ShaderBuild

/-- A demand on a value. -/
inductive Constraint where
  | positive
  | identifier
  deriving Repr, DecidableEq

/-- Why a value does not meet a constraint. -/
inductive ConstraintFault where
  | notPositive (value : Value)
  | notIdentifier (value : Value)
  /-- The value cannot be compared with a number. -/
  | incomparable
  deriving Repr

/-- A text that shows a value, unless the value cannot be written. -/
def showing (value : Value) (text : String → String) : String :=
  if value.isUnwritable then Decimal.unwritableMessage else text value.shown

/-- The text of a fault; a failed comparison has none of its own. -/
def ConstraintFault.message : ConstraintFault → String
  | .notPositive value =>
    showing value fun shown => s!"Validation failed: SHOULD_BE_POSITIVE: {shown} <= 0"
  | .notIdentifier value =>
    showing value fun shown =>
      s!"Validation failed: SHOULD_BE_IDENTIFIER: {shown} is not a valid identifier"
  | .incomparable => "values of these kinds cannot be compared"

/-- A letter of the basic alphabet, a digit or an underscore. -/
def isNamePart (c : Char) : Bool := c.isAlphanum || c == '_'

/-- A letter of the basic alphabet or an underscore. -/
def isNameStart (c : Char) : Bool := c.isAlpha || c == '_'

/-- A text that starts with a name character other than a digit and goes on with name characters. -/
def isName : List Char → Bool
  | [] => false
  | first :: rest => isNameStart first && rest.all isNamePart

/-- An identifier is a name; a single line end after it is let through. -/
def isIdentifier (text : String) : Bool :=
  isName text.toList || (text.toList.getLast? == some '\n' && isName text.toList.dropLast)

namespace Constraint

/-- Whether a float is at most zero, which no value that is not a number is. -/
def isFloatNonPositive (x : Float) : Bool := x ≤ 0

/-- Check a value that must be positive. -/
def checkPositive (value : Value) : Except ConstraintFault Unit :=
  match value with
  | .bool true => .ok ()
  | .bool false => .error (.notPositive value)
  | .int n => if n ≤ 0 then .error (.notPositive value) else .ok ()
  | .float x => if isFloatNonPositive x then .error (.notPositive value) else .ok ()
  | _ => .error .incomparable

/-- Check a value that must be an identifier. -/
def checkIdentifier (value : Value) : Except ConstraintFault Unit :=
  match value with
  | .str text => if isIdentifier text then .ok () else .error (.notIdentifier value)
  | _ => .error (.notIdentifier value)

def check : Constraint → Value → Except ConstraintFault Unit
  | .positive => checkPositive
  | .identifier => checkIdentifier

end Constraint

end ShaderBuild
