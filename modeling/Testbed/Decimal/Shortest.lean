/-
This file selects the decimal with the fewest digits that reads back to a given double. A double
stands for the interval of reals that round to it; the grids of one digit, two digits and so on are
tried in turn, and the first grid with a point in the interval gives the decimal. Everything is
computed in exact integers from the bits of the double.
-/

namespace Testbed.Decimal

/-- A finite value without its sign: the significand times two to the exponent. -/
structure Binary where
  significand : Nat
  exponent : Int
  /-- The gap to the value below is half the gap to the value above. -/
  narrowBelow : Bool

/-- The value of the bits of a finite double, the sign left out. -/
def Binary.ofBits (bits : UInt64) : Binary :=
  let exponentBits := ((bits >>> 52) &&& 0x7FF).toNat
  let fraction := (bits &&& 0xFFFFFFFFFFFFF).toNat
  if exponentBits = 0 then ⟨fraction, -1074, false⟩
  else ⟨0x10000000000000 + fraction, (exponentBits : Int) - 1075, fraction == 0 && exponentBits > 1⟩

/-- The digits times ten to the exponent. -/
structure Scaled where
  digits : Nat
  exponent : Int
  deriving DecidableEq, Repr

/-- A power of ten, or one where the exponent is negative. -/
def tens (exponent : Int) : Nat := Nat.pow 10 exponent.toNat

/-- A power of two, or one where the exponent is negative. -/
def twos (exponent : Int) : Nat := Nat.pow 2 exponent.toNat

/-- Compares a number scaled by a power of ten with one scaled by a power of two. -/
def compareScaled (digits : Nat) (ten : Int) (significand : Nat) (two : Int) : Ordering :=
  compare (digits * tens ten * twos (-two)) (significand * twos two * tens (-ten))

/-- The decimal lies among the reals that round to the value. The ends of the interval belong to it
when the significand is even. -/
def Binary.readsBack (value : Binary) (decimal : Scaled) : Bool :=
  let lower := if value.narrowBelow then 4 * value.significand - 1 else 4 * value.significand - 2
  let upper := 4 * value.significand + 2
  let closed := value.significand % 2 == 0
  let fromLower := compareScaled decimal.digits decimal.exponent lower (value.exponent - 2)
  let fromUpper := compareScaled decimal.digits decimal.exponent upper (value.exponent - 2)
  (fromLower == .gt || (closed && fromLower == .eq)) &&
    (fromUpper == .lt || (closed && fromUpper == .eq))

/-- The least power of ten above the value: its logarithm estimated from the binary one, then
corrected by exact comparison. -/
def Binary.scale (value : Binary) : Int :=
  let binaryLogarithm := (value.significand.log2 : Int) + value.exponent
  let estimate := Int.fdiv (binaryLogarithm * 30103) 100000
  let candidates := [estimate, estimate + 1, estimate + 2]
  (candidates.find? fun power =>
    compareScaled 1 power value.significand value.exponent == .gt).getD (estimate + 3)

/-- The greatest point at or below the value on the grid of the given power of ten. -/
def Binary.floorOn (value : Binary) (grid : Int) : Nat :=
  (value.significand * twos value.exponent * tens (-grid)) /
    (twos (-value.exponent) * tens grid)

/-- Of the two neighbours of the value on a grid, the one to choose: the only one that reads back,
or the nearer, and on a tie the even one. -/
def Binary.onGrid (value : Binary) (grid : Int) : Option Scaled :=
  let low : Scaled := ⟨value.floorOn grid, grid⟩
  let high : Scaled := ⟨value.floorOn grid + 1, grid⟩
  match value.readsBack low, value.readsBack high with
  | false, false => none
  | true, false => some low
  | false, true => some high
  | true, true =>
    match compareScaled (low.digits + high.digits) grid (2 * value.significand) value.exponent with
    | .gt => some low
    | .lt => some high
    | .eq => some (if low.digits % 2 == 0 then low else high)

/-- Moves the zeros at the end of the digits into the exponent, at most as many as given. -/
def Scaled.stripped : Nat → Scaled → Scaled
  | 0, decimal => decimal
  | most + 1, decimal =>
    if decimal.digits % 10 == 0 && decimal.digits != 0 then
      Scaled.stripped most ⟨decimal.digits / 10, decimal.exponent + 1⟩
    else decimal

/-- The exact decimal of a value, for a value that no grid answers. -/
def Binary.exact (value : Binary) : Scaled :=
  if value.exponent < 0 then
    ⟨value.significand * Nat.pow 5 (-value.exponent).toNat, value.exponent⟩
  else ⟨value.significand * twos value.exponent, 0⟩

/-- The decimal with the fewest digits that reads back to a value other than zero. -/
def Binary.shortest (value : Binary) : Scaled :=
  let scale := value.scale
  let found := (List.range 17).findSome? fun index => value.onGrid (scale - (index + 1 : Nat))
  (found.getD value.exact).stripped 20

example : (Binary.ofBits 0x3FB999999999999A).shortest = ⟨1, -1⟩ := by decide +kernel
example : (Binary.ofBits 0x0000000000000001).shortest = ⟨5, -324⟩ := by decide +kernel
example : (Binary.ofBits 0x3FD3333333333334).shortest = ⟨30000000000000004, -17⟩ := by
  decide +kernel

end Testbed.Decimal
