/-
This file defines how long to wait between attempts, and how many attempts to make. A delay is the
same each time, or grows by a factor up to a greatest delay. The growth is computed in 32 bits: a
power of the factor beyond them counts as 2^32 - 1.
-/

import Testbed.Time.Duration

namespace Testbed

/-- The delays between attempts. -/
inductive Backoff where
  | fixed (delay : Duration)
  /-- The initial delay times the factor for each attempt after the first, up to the greatest. -/
  | exponential (initial : Duration) (factor : UInt32) (greatest : Duration)

namespace Backoff

/-- The power of a factor, if it has 32 bits. -/
def power? (factor : UInt32) (exponent : Nat) : Option UInt32 :=
  if factor = 0 then some (if exponent = 0 then 1 else 0)
  else if factor = 1 then some 1
  else if exponent < 32 then
    let power := Nat.pow factor.toNat exponent
    if power < 0x100000000 then some (UInt32.ofNat power) else none
  else none

/-- The power of a factor, at most 2^32 - 1. -/
def multiplier (factor : UInt32) (exponent : Nat) : UInt32 :=
  (power? factor exponent).getD 0xFFFFFFFF

/-- The power that counts is the exact one, up to the greatest number of 32 bits. -/
theorem toNat_multiplier (factor : UInt32) (exponent : Nat) :
    (multiplier factor exponent).toNat = min (Nat.pow factor.toNat exponent) 0xFFFFFFFF := by
  unfold multiplier power?
  split
  case isTrue isZero =>
    rw [isZero]
    cases exponent with
    | zero => rfl
    | succ fewer => exact (Nat.zero_min _).symm
  case isFalse notZero =>
    split
    case isTrue isOne =>
      rw [isOne]
      exact (congrArg (min · 0xFFFFFFFF) (Nat.one_pow exponent)).symm
    case isFalse notOne =>
      split
      case isTrue few =>
        simp only
        split
        case isTrue fits =>
          show (UInt32.ofNat _).toNat = _
          rw [UInt32.toNat_ofNat_of_lt' fits, Nat.min_eq_left (Nat.le_of_lt_succ fits)]
        case isFalse tooGreat =>
          exact (Nat.min_eq_right (Nat.le_of_lt (Nat.not_lt.1 tooGreat))).symm
      case isFalse many =>
        have two : 2 ≤ factor.toNat := by
          have := mt (UInt32.toNat_inj (b := 0)).1 notZero
          have := mt (UInt32.toNat_inj (b := 1)).1 notOne
          simp only [UInt32.toNat_zero, UInt32.toNat_one] at *
          omega
        have tooGreat : 0xFFFFFFFF ≤ Nat.pow factor.toNat exponent := calc
          0xFFFFFFFF ≤ Nat.pow 2 32 := by decide
          _ ≤ Nat.pow 2 exponent := Nat.pow_le_pow_right (by decide) (Nat.not_lt.1 many)
          _ ≤ Nat.pow factor.toNat exponent := Nat.pow_le_pow_left two exponent
        exact (Nat.min_eq_right tooGreat).symm

/-- The delay after an attempt without success, the first attempt having the number one. -/
def delayAfter (backoff : Backoff) (attempt : UInt32) : Duration :=
  match backoff with
  | fixed delay => delay
  | exponential initial factor greatest =>
    (initial.scale (multiplier factor (attempt.toNat - 1))).shorter greatest

end Backoff

end Testbed
