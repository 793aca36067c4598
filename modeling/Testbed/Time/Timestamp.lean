/-
This file defines the timestamps of samples. They count milliseconds; lines to ingest take
nanoseconds and queries take seconds. Conversions cut off what is finer than a millisecond and end
at the bounds of 64 bits.
-/

import Testbed.Json.Reader

namespace Testbed

/-- A point in time, in milliseconds since the epoch. -/
structure Timestamp where
  milliseconds : Int64
  deriving DecidableEq

namespace Timestamp

/-- The least number of 64 bits with a sign. -/
def least : Int := -0x8000000000000000

/-- The greatest number of 64 bits with a sign. -/
def greatest : Int := 0x7FFFFFFFFFFFFFFF

/-- The number of 64 bits that is nearest. -/
def clamp (value : Int) : Int64 :=
  Int64.ofInt (max least (min greatest value))

/-- The point so many nanoseconds after the epoch, cut to milliseconds toward the epoch. -/
def ofNanoseconds (nanoseconds : Int64) : Timestamp where
  milliseconds := Int64.ofInt (nanoseconds.toInt.tdiv 1000000)

/-- The point so many seconds after the epoch, to the nearest millisecond. -/
def ofSeconds (seconds : Float) : Timestamp where
  milliseconds := (seconds * 1000.0).round.toInt64

/-- The nanoseconds since the epoch. -/
def nanoseconds (timestamp : Timestamp) : Int64 :=
  clamp (timestamp.milliseconds.toInt * 1000000)

/-- The seconds since the epoch. -/
def seconds (timestamp : Timestamp) : Float :=
  timestamp.milliseconds.toFloat / 1000.0

/-- The order of two points in time. -/
def compare (first second : Timestamp) : Ordering :=
  Ord.compare first.milliseconds.toInt second.milliseconds.toInt

/-! ### The number behind a timestamp -/

/-- A timestamp is known by its number. -/
theorem toInt_milliseconds_inj {first second : Timestamp} :
    first.milliseconds.toInt = second.milliseconds.toInt ↔ first = second := by
  cases first
  cases second
  rw [Int64.toInt_inj, mk.injEq]

theorem isLE_compare_iff (first second : Timestamp) :
    (first.compare second).isLE = true ↔ first.milliseconds.toInt ≤ second.milliseconds.toInt :=
  Int.isLE_compare

@[simp] theorem toInt_clamp (value : Int) :
    (clamp value).toInt = max least (min greatest value) := by
  unfold clamp
  exact Int64.toInt_ofInt_of_le (by unfold least greatest; omega) (by unfold least greatest; omega)

theorem toInt_nanoseconds (timestamp : Timestamp) :
    timestamp.nanoseconds.toInt =
      max least (min greatest (timestamp.milliseconds.toInt * 1000000)) :=
  toInt_clamp _

/-- A number of nanoseconds is cut toward the epoch, by less than a millisecond. -/
theorem cut_bounds (value : Int) :
    (0 ≤ value → value.tdiv 1000000 * 1000000 ≤ value ∧
      value < value.tdiv 1000000 * 1000000 + 1000000) ∧
    (value ≤ 0 → value ≤ value.tdiv 1000000 * 1000000 ∧
      value.tdiv 1000000 * 1000000 - 1000000 < value) := by
  constructor
  · intro after
    rw [Int.tdiv_eq_ediv_of_nonneg after]
    omega
  · intro before
    have mirrored : (-value).tdiv 1000000 = -value.tdiv 1000000 := Int.neg_tdiv _ _
    rw [Int.tdiv_eq_ediv_of_nonneg (by omega : 0 ≤ -value)] at mirrored
    omega

theorem toInt_milliseconds_ofNanoseconds (nanoseconds : Int64) :
    (ofNanoseconds nanoseconds).milliseconds.toInt = nanoseconds.toInt.tdiv 1000000 := by
  have low := nanoseconds.le_toInt
  have high := nanoseconds.toInt_lt
  have bounds := cut_bounds nanoseconds.toInt
  exact Int64.toInt_ofInt_of_le (by omega) (by omega)

/-! ### Writing and reading -/

/-- The timestamp as a JSON integer. -/
def toJson (timestamp : Timestamp) : Json :=
  .number (.integer (.ofInt64 timestamp.milliseconds))

/-- Reads a timestamp from a JSON integer. -/
def read : Json.Reader Timestamp := fun depth text =>
  (Json.readInt64 depth text).map fun (value, rest) => (⟨value⟩, rest)

def inspect (timestamp : Timestamp) : String :=
  "SeriesTimestamp(" ++ toString timestamp.milliseconds.toInt ++ ")"

end Timestamp

end Testbed
