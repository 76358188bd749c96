/-! # The longest decimal integers

Turning a text into an integer and an integer into a text takes time that grows faster than the number
of digits. Decimal integers with too many digits are therefore neither read nor written. Other bases
have no such limit, so an integer that cannot be written may well exist.
-/

namespace ShaderBuild.Decimal

/-- The most digits of a decimal integer that is read or written. -/
def longestInteger : Nat := 4300

/-- The text for an integer that has too many digits to be read. -/
def unreadableMessage (digits : Nat) : String :=
  s!"Exceeds the limit ({longestInteger} digits) for integer string conversion: value has {digits} " ++
    "digits; use sys.set_int_max_str_digits() to increase the limit"

/-- The text for an integer that has too many digits to be written. -/
def unwritableMessage : String :=
  s!"Exceeds the limit ({longestInteger} digits) for integer string conversion; " ++
    "use sys.set_int_max_str_digits() to increase the limit"

/-- Whether an integer has too many digits to be written. -/
def isUnwritable (n : Int) : Bool := Nat.pow 10 longestInteger ≤ n.natAbs

end ShaderBuild.Decimal
