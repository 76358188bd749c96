import ShaderBuild.Calendar
import ShaderBuild.Decimal.Limit
import ShaderBuild.Text.Quoted

/-! # Faults of YAML texts

A text that is not well formed has no message of its own. A scalar that is well formed but whose
value does not exist is named.
-/

namespace ShaderBuild.Yaml

/-- The part of a date or time that is out of range. -/
inductive MomentFault where
  | year (year : Nat)
  | month
  | day
  | hour
  | minute
  | second
  /-- An offset of a day or more, in minutes. -/
  | offset (minutes : Int)
  deriving Repr, DecidableEq

/-- The text of a part that is out of range. -/
def MomentFault.message : MomentFault → String
  | .year n => s!"year {n} is out of range"
  | .month => "month must be in 1..12"
  | .day => "day is out of range for month"
  | .hour => "hour must be in 0..23"
  | .minute => "minute must be in 0..59"
  | .second => "second must be in 0..59"
  | .offset length =>
    "offset must be a timedelta strictly between -timedelta(hours=24) and timedelta(hours=24), not " ++
      shownDuration length ++ "."

/-- Why a text has no value. -/
inductive Fault where
  | malformed
  /-- An escape for a code point beyond the last one. -/
  | codePoint (code : Nat)
  /-- A text that is no integer in the given base. -/
  | integer (base : Nat) (text : String)
  | longInteger (digits : Nat)
  /-- A text that is no float. -/
  | float (text : String)
  /-- A text that is no truth value. -/
  | truth (text : String)
  /-- A place of a number in base sixty that is too far from the last one to be counted as a float. -/
  | unboundedPlace
  /-- Nothing where a number is due. -/
  | emptyNumber
  /-- A text that is no date. -/
  | notMoment
  /-- A date that is given by a mapping. -/
  | mappedMoment
  | moment (fault : MomentFault)
  /-- A text that is given by a mapping which holds itself in the text's stead. -/
  | endless
  /-- Collections that are nested too deeply. -/
  | nested
  deriving Repr, DecidableEq

/-- A code that does not even fit in a signed word of 32 bits is refused in other words. -/
def isOversized (code : Nat) : Bool := 0x80000000 ≤ code

/-- The most characters of a text that is no integer, its quotation marks with it, that are shown. -/
def longestQuote : Nat := 200

def Fault.message : Fault → String
  | .malformed => "the text is not well formed"
  | .codePoint code =>
    if isOversized code then "Python int too large to convert to C int"
    else "chr() arg not in range(0x110000)"
  | .integer base text =>
    s!"invalid literal for int() with base {base}: " ++
      String.ofList ((Text.quoted text).toList.take longestQuote)
  | .longInteger digits => Decimal.unreadableMessage digits
  | .float found => s!"could not convert string to float: {Text.quoted found}"
  | .truth text => Text.quoted text
  | .emptyNumber => "string index out of range"
  | .unboundedPlace => "int too large to convert to float"
  | .notMoment => "'NoneType' object has no attribute 'groupdict'"
  | .mappedMoment => "a mapping is no date"
  | .moment fault => fault.message
  | .endless => "the text stands for itself"
  | .nested => "the text is nested too deeply"

end ShaderBuild.Yaml
