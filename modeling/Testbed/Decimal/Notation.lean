/-
This file writes doubles as the texts of JSON numbers: with the fewest digits that read back,
positionally from 0.00001 up to 10^16, and otherwise with a signed exponent.
-/

import Testbed.Decimal.Shortest

namespace Testbed.Decimal

/-- The decimal digits of a number. -/
def digitsOf (number : Nat) : List Char :=
  Nat.toDigits 10 number

/-- A run of zeros. -/
def zeros (count : Nat) : List Char :=
  List.replicate count '0'

/-- The least exponent of the leading digit that is written positionally. -/
def leastPositional : Int := -5

/-- The least exponent of the leading digit beyond those written positionally. -/
def positionalEnd : Int := 16

/-- A decimal written with its point; a whole number keeps one zero behind the point. -/
def positional (digits : List Char) (exponent leading : Int) : List Char :=
  if 0 ≤ exponent then digits ++ zeros exponent.toNat ++ ['.', '0']
  else if 0 ≤ leading then
    digits.take (leading.toNat + 1) ++ '.' :: digits.drop (leading.toNat + 1)
  else '0' :: '.' :: (zeros (-leading - 1).toNat ++ digits)

/-- A decimal written with one digit before the point and the exponent with its sign. -/
def scientific (digits : List Char) (leading : Int) : List Char :=
  let mantissa := match digits with
    | first :: second :: rest => first :: '.' :: second :: rest
    | few => few
  mantissa ++ 'e' :: (if leading < 0 then '-' else '+') :: digitsOf leading.natAbs

/-- A decimal in the notation that its size asks for. -/
def Scaled.text (decimal : Scaled) : List Char :=
  let digits := digitsOf decimal.digits
  let leading := decimal.exponent + digits.length - 1
  if leastPositional ≤ leading ∧ leading < positionalEnd then
    positional digits decimal.exponent leading
  else scientific digits leading

/-- The text of a finite double. The sign of zero is kept. -/
def textOfBits (bits : UInt64) : List Char :=
  let magnitude := bits &&& 0x7FFFFFFFFFFFFFFF
  let digits := if magnitude = 0 then ['0', '.', '0'] else (Binary.ofBits magnitude).shortest.text
  if bits = magnitude then digits else '-' :: digits

/-- The text of a finite double. -/
def text (value : Float) : List Char :=
  textOfBits value.toBits

example : text 1000.0 = ['1', '0', '0', '0', '.', '0'] := by decide +kernel
example : text 1e16 = ['1', 'e', '+', '1', '6'] := by decide +kernel
example : text 1e-5 = ['0', '.', '0', '0', '0', '0', '1'] := by decide +kernel
example : text (-0.0) = ['-', '0', '.', '0'] := by decide +kernel

end Testbed.Decimal
