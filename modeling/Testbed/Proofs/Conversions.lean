/-
This file proves what is kept when timestamps and numbers of nanoseconds are turned into each other.
A timestamp comes back from its nanoseconds exactly if they have 64 bits; the nanoseconds of another
end at the bound on its side of the epoch. A number of nanoseconds that comes back from a timestamp
is cut toward the epoch by less than a millisecond, and never at a bound. Neither direction reverses
the order of two points in time. Everything follows from the number of either result, with a cut at
the bounds in one direction and a cut to milliseconds in the other.
-/

import Testbed.Time.Timestamp

namespace Testbed.Timestamp

/-- Whether a number has 64 bits, with its sign. -/
def Fits (value : Int) : Prop :=
  least ≤ value ∧ value ≤ greatest

instance (value : Int) : Decidable (Fits value) :=
  inferInstanceAs (Decidable (_ ∧ _))

/-! ### From timestamps to nanoseconds -/

section Timestamps

variable (timestamp : Timestamp)

theorem fits_iff :
    Fits (timestamp.milliseconds.toInt * 1000000) ↔
      timestamp.milliseconds.toInt.natAbs ≤ 9223372036854 := by
  unfold Fits least greatest
  omega

/-- The nanoseconds are exact where their number fits. -/
theorem toInt_nanoseconds_eq_iff :
    timestamp.nanoseconds.toInt = timestamp.milliseconds.toInt * 1000000 ↔
      Fits (timestamp.milliseconds.toInt * 1000000) := by
  rw [toInt_nanoseconds]
  unfold Fits least greatest
  omega

/-- Both bounds are cut to a timestamp whose nanoseconds fit, so no other comes back from them. -/
theorem ofNanoseconds_nanoseconds_eq_iff :
    ofNanoseconds timestamp.nanoseconds = timestamp ↔
      Fits (timestamp.milliseconds.toInt * 1000000) := by
  have number := timestamp.toInt_nanoseconds
  have cut := cut_bounds timestamp.nanoseconds.toInt
  rw [← toInt_milliseconds_inj, toInt_milliseconds_ofNanoseconds]
  unfold Fits
  unfold least greatest at *
  omega

theorem nanoseconds_of_not_fits (tooFar : ¬Fits (timestamp.milliseconds.toInt * 1000000)) :
    timestamp.nanoseconds =
      if timestamp.milliseconds < 0 then Int64.minValue else Int64.maxValue := by
  have number := timestamp.toInt_nanoseconds
  unfold Fits at tooFar
  unfold least greatest at *
  rw [← Int64.toInt_inj, apply_ite Int64.toInt, Int64.toInt_minValue, Int64.toInt_maxValue]
  simp only [Int64.lt_iff_toInt_lt, Int64.toInt_zero]
  omega

end Timestamps

/-- Later points have no fewer nanoseconds. -/
theorem nanoseconds_mono {first second : Timestamp}
    (inOrder : (first.compare second).isLE = true) : first.nanoseconds ≤ second.nanoseconds := by
  have le := (isLE_compare_iff first second).1 inOrder
  rw [Int64.le_iff_toInt_le, toInt_nanoseconds, toInt_nanoseconds]
  omega

/-! ### From nanoseconds to timestamps -/

section Nanoseconds

variable (nanoseconds : Int64)

theorem fits_ofNanoseconds : Fits ((ofNanoseconds nanoseconds).milliseconds.toInt * 1000000) := by
  have low := nanoseconds.le_toInt
  have high := nanoseconds.toInt_lt
  have cut := cut_bounds nanoseconds.toInt
  rw [toInt_milliseconds_ofNanoseconds]
  unfold Fits least greatest
  omega

theorem toInt_nanoseconds_ofNanoseconds :
    (ofNanoseconds nanoseconds).nanoseconds.toInt = nanoseconds.toInt.tdiv 1000000 * 1000000 := by
  rw [(toInt_nanoseconds_eq_iff _).2 (fits_ofNanoseconds nanoseconds),
    toInt_milliseconds_ofNanoseconds]

example : (ofNanoseconds (-1999999)).nanoseconds = -1000000 := by decide

/-- What comes back from a timestamp lies between the epoch and what it was made from. -/
theorem nanoseconds_ofNanoseconds_between :
    0 ≤ (ofNanoseconds nanoseconds).nanoseconds ∧
        (ofNanoseconds nanoseconds).nanoseconds ≤ nanoseconds ∨
      nanoseconds ≤ (ofNanoseconds nanoseconds).nanoseconds ∧
        (ofNanoseconds nanoseconds).nanoseconds ≤ 0 := by
  have cut := cut_bounds nanoseconds.toInt
  simp only [Int64.le_iff_toInt_le, toInt_nanoseconds_ofNanoseconds,
    Int64.toInt_zero]
  omega

theorem natAbs_sub_nanoseconds_lt :
    (nanoseconds.toInt - (ofNanoseconds nanoseconds).nanoseconds.toInt).natAbs < 1000000 := by
  have cut := cut_bounds nanoseconds.toInt
  rw [toInt_nanoseconds_ofNanoseconds]
  omega

end Nanoseconds

/-- More nanoseconds do not lead to an earlier point. -/
theorem ofNanoseconds_mono {first second : Int64} (inOrder : first ≤ second) :
    ((ofNanoseconds first).compare (ofNanoseconds second)).isLE = true := by
  have le := Int64.le_iff_toInt_le.1 inOrder
  have firstCut := cut_bounds first.toInt
  have secondCut := cut_bounds second.toInt
  rw [isLE_compare_iff, toInt_milliseconds_ofNanoseconds, toInt_milliseconds_ofNanoseconds]
  omega

/-! ### Both directions -/

/-- A timestamp comes back from its nanoseconds if and only if their number has 64 bits, which holds
up to 9223372036854 milliseconds on either side of the epoch, and only then the nanoseconds are
exact; beyond that they are the bound on the side of the timestamp. Nanoseconds that become a
timestamp and nanoseconds again are never cut off at a bound, lie between zero and what they were,
and differ from that by less than a millisecond. Both directions keep the order, though they can
make two points the same. -/
theorem conversions_account :
    (∀ timestamp : Timestamp,
      (ofNanoseconds timestamp.nanoseconds = timestamp ↔
        Fits (timestamp.milliseconds.toInt * 1000000)) ∧
      (Fits (timestamp.milliseconds.toInt * 1000000) ↔
        timestamp.milliseconds.toInt.natAbs ≤ 9223372036854) ∧
      (timestamp.nanoseconds.toInt = timestamp.milliseconds.toInt * 1000000 ↔
        Fits (timestamp.milliseconds.toInt * 1000000)) ∧
      (¬Fits (timestamp.milliseconds.toInt * 1000000) →
        timestamp.nanoseconds =
          if timestamp.milliseconds < 0 then Int64.minValue else Int64.maxValue)) ∧
    (∀ nanoseconds : Int64,
      Fits ((ofNanoseconds nanoseconds).milliseconds.toInt * 1000000) ∧
      (0 ≤ (ofNanoseconds nanoseconds).nanoseconds ∧
          (ofNanoseconds nanoseconds).nanoseconds ≤ nanoseconds ∨
        nanoseconds ≤ (ofNanoseconds nanoseconds).nanoseconds ∧
          (ofNanoseconds nanoseconds).nanoseconds ≤ 0) ∧
      (nanoseconds.toInt - (ofNanoseconds nanoseconds).nanoseconds.toInt).natAbs < 1000000) ∧
    (∀ first second : Timestamp, (first.compare second).isLE = true →
      first.nanoseconds ≤ second.nanoseconds) ∧
    ∀ first second : Int64, first ≤ second →
      ((ofNanoseconds first).compare (ofNanoseconds second)).isLE = true := by
  refine ⟨fun timestamp => ?_, fun nanoseconds => ?_, fun _ _ => nanoseconds_mono,
    fun _ _ => ofNanoseconds_mono⟩
  · exact ⟨timestamp.ofNanoseconds_nanoseconds_eq_iff, timestamp.fits_iff,
      timestamp.toInt_nanoseconds_eq_iff, timestamp.nanoseconds_of_not_fits⟩
  · exact ⟨fits_ofNanoseconds nanoseconds, nanoseconds_ofNanoseconds_between nanoseconds,
      natAbs_sub_nanoseconds_lt nanoseconds⟩

/-- The first timestamps beyond the range on either side end at the bounds. The order is kept where
the upper bound is reached, and around the epoch. -/
theorem conversions_account_beyond :
    ¬Fits ((⟨9223372036855⟩ : Timestamp).milliseconds.toInt * 1000000) ∧
    (⟨9223372036855⟩ : Timestamp).nanoseconds = Int64.maxValue ∧
    ¬Fits ((⟨-9223372036855⟩ : Timestamp).milliseconds.toInt * 1000000) ∧
    (⟨-9223372036855⟩ : Timestamp).nanoseconds = Int64.minValue ∧
    ((⟨9223372036854⟩ : Timestamp).compare ⟨9223372036855⟩).isLE = true ∧
    (⟨9223372036854⟩ : Timestamp).nanoseconds ≤ (⟨9223372036855⟩ : Timestamp).nanoseconds ∧
    (-999999 : Int64) ≤ 999999 ∧
    ((ofNanoseconds (-999999)).compare (ofNanoseconds 999999)).isLE = true := by
  obtain ⟨timestamps, -, later, more⟩ := conversions_account
  obtain ⟨-, -, -, above⟩ := timestamps ⟨9223372036855⟩
  obtain ⟨-, -, -, below⟩ := timestamps ⟨-9223372036855⟩
  exact ⟨by decide, above (by decide), by decide, below (by decide), by decide,
    later _ _ (by decide), by decide, more _ _ (by decide)⟩

end Testbed.Timestamp
