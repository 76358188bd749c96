/-! # Shortest decimals

Every finite binary number lies in an interval of reals that round to it. Its shortest decimal is the
one with the fewest digits inside that interval, and of those the one closest to the number; an exact
tie goes to the even digit. All comparisons are exact, on natural numbers.
-/

namespace ShaderBuild.Decimal

/-- The magnitude of a finite binary number, `mantissa * 2 ^ exponent`. -/
structure Binary where
  mantissa : Nat
  exponent : Int
  /-- The neighbour below is half as far away as the neighbour above. -/
  narrowBelow : Bool
  deriving Repr, DecidableEq

namespace Binary

/-- The magnitude that sixty-four bits stand for, the sign left aside. -/
def ofBits (bits : UInt64) : Binary :=
  let exponent := ((bits >>> 52) &&& 0x7FF).toNat
  let fraction := (bits &&& 0xFFFFFFFFFFFFF).toNat
  if exponent = 0 then ⟨fraction, -1074, false⟩
  else ⟨0x10000000000000 + fraction, (exponent : Int) - 1075, fraction == 0 && exponent > 1⟩

end Binary

/-- The decimal `digits * 10 ^ exponent`. -/
structure Scaled where
  digits : Nat
  exponent : Int
  deriving Repr, DecidableEq

/-- Compare `d * 10 ^ i` with `b * 2 ^ j` exactly. -/
def compareScaled (d : Nat) (i : Int) (b : Nat) (j : Int) : Ordering :=
  compare (d * Nat.pow 10 i.toNat * Nat.pow 2 (-j).toNat) (b * Nat.pow 2 j.toNat * Nat.pow 10 (-i).toNat)

namespace Binary

/-- Whether a decimal lies among the reals that round to this number. The ends of the interval belong
    to it exactly if the mantissa is even. -/
def holds (x : Binary) (d : Scaled) : Bool :=
  let low := if x.narrowBelow then 4 * x.mantissa - 1 else 4 * x.mantissa - 2
  let high := 4 * x.mantissa + 2
  let closed := x.mantissa % 2 == 0
  let fromLow := compareScaled d.digits d.exponent low (x.exponent - 2)
  let fromHigh := compareScaled d.digits d.exponent high (x.exponent - 2)
  (fromLow == .gt || (closed && fromLow == .eq)) && (fromHigh == .lt || (closed && fromHigh == .eq))

/-- The least `k` with the number below `10 ^ k`. The binary logarithm gives a lower bound for it that
    is short of it by three at most. -/
def scale (x : Binary) : Int :=
  let bound := ((x.mantissa.log2 : Int) + x.exponent) * 30103 / 100000
  let fits (k : Int) := compareScaled 1 k x.mantissa x.exponent == .gt
  if fits bound then bound
  else if fits (bound + 1) then bound + 1
  else if fits (bound + 2) then bound + 2
  else bound + 3

/-- The largest multiple of `10 ^ exponent` that is not above the number. -/
def floorAt (x : Binary) (exponent : Int) : Nat :=
  (x.mantissa * Nat.pow 2 x.exponent.toNat * Nat.pow 10 (-exponent).toNat) /
    (Nat.pow 2 (-x.exponent).toNat * Nat.pow 10 exponent.toNat)

/-- The neighbour of the number on the grid of multiples of `10 ^ exponent` that rounds back to it:
    the closer one if both do, the even one if both are equally close. -/
def nearestAt? (x : Binary) (exponent : Int) : Option Scaled :=
  let below := x.floorAt exponent
  let downOk := x.holds ⟨below, exponent⟩
  let upOk := x.holds ⟨below + 1, exponent⟩
  if downOk && upOk then
    match compareScaled (2 * below + 1) exponent (2 * x.mantissa) x.exponent with
    | .gt => some ⟨below, exponent⟩
    | .lt => some ⟨below + 1, exponent⟩
    | .eq => some ⟨if below % 2 = 0 then below else below + 1, exponent⟩
  else if downOk then some ⟨below, exponent⟩
  else if upOk then some ⟨below + 1, exponent⟩
  else none

def exact (x : Binary) : Scaled :=
  if x.exponent < 0 then ⟨x.mantissa * Nat.pow 5 (-x.exponent).toNat, x.exponent⟩
  else ⟨x.mantissa * Nat.pow 2 x.exponent.toNat, 0⟩

end Binary

/-- Move trailing zeros of the digits into the exponent. The fuel bounds the number of zeros. -/
def stripZeros : Nat → Scaled → Scaled
  | 0, d => d
  | fuel + 1, d =>
    if d.digits ≠ 0 ∧ d.digits % 10 = 0 then stripZeros fuel ⟨d.digits / 10, d.exponent + 1⟩ else d

namespace Binary

/-- The shortest decimal of a positive number: the coarsest grid with a hit, from one digit to
    seventeen. -/
def shortest (x : Binary) : Scaled :=
  let k := x.scale
  let found := (List.range 17).findSome? fun (n : Nat) => x.nearestAt? (k - 1 - n)
  let d := found.getD x.exact
  stripZeros (Nat.toDigits 10 d.digits).length d

end Binary

/-- Read `digits * 10 ^ exponent`, rounded to nearest. Decimals far outside the range of a float are
    not computed: they are infinite or zero. -/
def toFloat (negative : Bool) (digits : Nat) (exponent : Int) : Float :=
  let size : Int := (Nat.toDigits 10 digits).length
  let magnitude : Float :=
    if digits = 0 then 0.0
    else if exponent + size > 400 then 1.0 / 0.0
    else if exponent + size < -400 then 0.0
    else Float.ofScientific digits (exponent < 0) exponent.natAbs
  if negative then -magnitude else magnitude

end ShaderBuild.Decimal
