import ShaderBuild.Decimal.Shortest

/-! # Notation of numbers

A float is written with the fewest digits that identify it. The notation says where positional
writing ends and how exponents and special values look.
-/

namespace ShaderBuild.Decimal

/-- The decisions of a float format. -/
structure Notation where
  /-- The least exponent of the leading digit that is written positionally. -/
  positionalFrom : Int
  /-- The least exponent of the leading digit that needs the scientific form again. -/
  positionalBelow : Int
  /-- The least number of digits of an exponent. -/
  exponentWidth : Nat
  /-- The text of a value that is no number. -/
  nan : String
  /-- The text of infinity, without its sign. -/
  infinity : String

/-- Values in manifests are written positionally from `10 ^ -4` to below `10 ^ 16`, with a point in
    every case, and otherwise with a signed exponent of at least two digits. -/
def plainNotation : Notation where
  positionalFrom := -4
  positionalBelow := 16
  exponentWidth := 2
  nan := "nan"
  infinity := "inf"

def digitsOf (n : Nat) : List Char := Nat.toDigits 10 n

/-- Digits with a point after the first `point` of them, padded with zeros on either side so that the
    point stands between two digits. -/
def positional (digits : List Char) (point : Int) : List Char :=
  if point ≤ 0 then ['0', '.'] ++ List.replicate (-point).toNat '0' ++ digits
  else
    let whole := digits.take point.toNat
    let fraction := digits.drop point.toNat
    whole ++ List.replicate (point.toNat - whole.length) '0' ++ ['.'] ++
      (if fraction.isEmpty then ['0'] else fraction)

/-- An exponent with its sign and at least `width` digits. -/
def signedExponent (width : Nat) (exponent : Int) : List Char :=
  let digits := digitsOf exponent.natAbs
  (if exponent < 0 then '-' else '+') :: List.replicate (width - digits.length) '0' ++ digits

/-- Lay out the decimal `d`, which has no trailing zero, as a number without a sign. -/
def Notation.layOut (format : Notation) (d : Scaled) : List Char :=
  let digits := digitsOf d.digits
  let leading : Int := d.exponent + digits.length - 1
  if format.positionalFrom ≤ leading ∧ leading < format.positionalBelow then
    positional digits (leading + 1)
  else
    let mantissa :=
      match digits with
      | [] => []
      | [only] => [only]
      | first :: rest => first :: '.' :: rest
    mantissa ++ 'e' :: signedExponent format.exponentWidth leading

def Notation.write (format : Notation) (x : Float) : String :=
  let bits := x.toBits
  let magnitude := bits &&& 0x7FFFFFFFFFFFFFFF
  let sign := if bits ≥ 0x8000000000000000 then "-" else ""
  if magnitude > 0x7FF0000000000000 then format.nan
  else if magnitude = 0x7FF0000000000000 then sign ++ format.infinity
  else if magnitude = 0 then sign ++ "0.0"
  else sign ++ String.ofList (format.layOut (Binary.ofBits magnitude).shortest)

end ShaderBuild.Decimal
