/-! # Hexadecimal digits

Lower-case digits in base sixteen, with or without a least width.
-/

namespace ShaderBuild.Text

/-- The digit for a value below sixteen. -/
def hexDigit (n : Nat) : Char :=
  if n < 10 then Char.ofNat (48 + n) else Char.ofNat (87 + n)

/-- The value of a hexadecimal digit of either case. -/
def hexValue? (c : Char) : Option Nat :=
  if '0' ≤ c ∧ c ≤ '9' then some (c.toNat - 48)
  else if 'a' ≤ c ∧ c ≤ 'f' then some (c.toNat - 87)
  else if 'A' ≤ c ∧ c ≤ 'F' then some (c.toNat - 55)
  else none

/-- Exactly `width` digits of a number, the most significant first; higher digits are dropped. -/
def hexFixed : (width n : Nat) → List Char
  | 0, _ => []
  | width + 1, n => hexFixed width (n / 16) ++ [hexDigit (n % 16)]

/-- All digits of a number, padded with zeros to at least `width`. -/
def hexPadded (width n : Nat) : List Char :=
  let digits := Nat.toDigits 16 n
  List.replicate (width - digits.length) '0' ++ digits

/-- The number written by digits of base sixteen. -/
def hexNumber? (digits : List Char) : Option Nat :=
  digits.foldlM (fun value c => (hexValue? c).map (16 * value + ·)) 0

end ShaderBuild.Text
