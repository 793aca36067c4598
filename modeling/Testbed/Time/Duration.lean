/-
This file defines spans of time, to the nanosecond and up to 2^64 seconds. Sums and products that
would be longer are the longest span.
-/

import Testbed.Decimal.Notation

namespace Testbed

/-- The nanoseconds of the longest span. -/
def greatestNanoseconds : Nat := 0x10000000000000000 * 1000000000 - 1

/-- A span of time. -/
structure Duration where
  nanoseconds : Nat
  le_greatest : nanoseconds ≤ greatestNanoseconds := by decide
  deriving DecidableEq

namespace Duration

/-- The span of so many nanoseconds, or the longest one. -/
def clamp (nanoseconds : Nat) : Duration where
  nanoseconds := min nanoseconds greatestNanoseconds
  le_greatest := Nat.min_le_right _ _

/-- No time at all. -/
def zero : Duration where
  nanoseconds := 0

/-- A span of whole seconds. -/
def ofSeconds (seconds : UInt64) : Duration where
  nanoseconds := seconds.toNat * 1000000000
  le_greatest := by have := seconds.toNat_lt; unfold greatestNanoseconds; omega

/-- A span of whole milliseconds. -/
def ofMilliseconds (milliseconds : UInt64) : Duration where
  nanoseconds := milliseconds.toNat * 1000000
  le_greatest := by have := milliseconds.toNat_lt; unfold greatestNanoseconds; omega

/-- A span given in seconds and nanoseconds. -/
def ofParts (seconds : UInt64) (nanoseconds : Fin 1000000000) : Duration where
  nanoseconds := seconds.toNat * 1000000000 + nanoseconds
  le_greatest := by
    have := seconds.toNat_lt
    have := nanoseconds.isLt
    unfold greatestNanoseconds
    omega

/-- The whole seconds of a span. -/
def seconds (duration : Duration) : Nat :=
  duration.nanoseconds / 1000000000

/-- The nanoseconds beyond the whole seconds. -/
def subsecond (duration : Duration) : Nat :=
  duration.nanoseconds % 1000000000

/-- The whole milliseconds of a span. -/
def milliseconds (duration : Duration) : Nat :=
  duration.nanoseconds / 1000000

/-- Two spans together. -/
def add (first second : Duration) : Duration :=
  clamp (first.nanoseconds + second.nanoseconds)

/-- A span a number of times. -/
def scale (duration : Duration) (factor : UInt32) : Duration :=
  clamp (duration.nanoseconds * factor.toNat)

/-- The shorter of two spans. -/
def shorter (first second : Duration) : Duration :=
  if first.nanoseconds ≤ second.nanoseconds then first else second

/-! ### The nanoseconds of a span -/

/-- A span is known by its nanoseconds. -/
theorem eq_of_nanoseconds_eq {first second : Duration}
    (same : first.nanoseconds = second.nanoseconds) : first = second := by
  cases first
  cases second
  cases same
  rfl

@[simp] theorem nanoseconds_clamp (nanoseconds : Nat) :
    (clamp nanoseconds).nanoseconds = min nanoseconds greatestNanoseconds := rfl

@[simp] theorem nanoseconds_shorter (first second : Duration) :
    (first.shorter second).nanoseconds = min first.nanoseconds second.nanoseconds := by
  unfold shorter
  split <;> omega

theorem clamp_nanoseconds (duration : Duration) : clamp duration.nanoseconds = duration :=
  eq_of_nanoseconds_eq (Nat.min_eq_left duration.le_greatest)

/-! ### Showing a span -/

/-- The digits of a fraction without the zeros at its end. -/
def fractionDigits (places fraction : Nat) : List Char :=
  let digits := Decimal.digitsOf fraction
  ((Decimal.zeros (places - digits.length) ++ digits).reverse.dropWhile (· == '0')).reverse

/-- A number with as many places behind the point as are needed. -/
def pointed (whole places fraction : Nat) : List Char :=
  if fraction = 0 then Decimal.digitsOf whole
  else Decimal.digitsOf whole ++ '.' :: fractionDigits places fraction

/-- The span in the largest unit that leaves a whole part. -/
def inspect (duration : Duration) : String :=
  let nanoseconds := duration.nanoseconds
  if 1000000000 ≤ nanoseconds then
    String.ofList (pointed (nanoseconds / 1000000000) 9 (nanoseconds % 1000000000) ++ ['s'])
  else if 1000000 ≤ nanoseconds then
    String.ofList (pointed (nanoseconds / 1000000) 6 (nanoseconds % 1000000) ++ ['m', 's'])
  else if 1000 ≤ nanoseconds then
    String.ofList (pointed (nanoseconds / 1000) 3 (nanoseconds % 1000) ++ ['µ', 's'])
  else String.ofList (pointed nanoseconds 0 0 ++ ['n', 's'])

end Duration

end Testbed
