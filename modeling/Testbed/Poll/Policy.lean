/-
This file defines the budgets of retrievals: how many attempts, and the delays between them.
-/

import Testbed.Poll.Backoff

namespace Testbed

/-- What kind of change is waited for. -/
inductive Consistency where
  /-- A record that a service commits to the relational store. -/
  | relationalWrite
  /-- Samples that the series store takes in and flushes. -/
  | seriesIngest
  /-- A started service that opens its port. -/
  | serviceStartup
  /-- A broker or store that begins to accept connections. -/
  | infraReadiness
  deriving DecidableEq, Repr

/-- A budget of attempts. -/
structure Policy where
  maxAttempts : UInt32
  backoff : Backoff

namespace Policy

/-- The attempts that a retrieval may make: one at least. -/
def attempts (policy : Policy) : Nat :=
  max 1 policy.maxAttempts.toNat

/-- A budget of one attempt at least. -/
def ofAttempts (maxAttempts : UInt32) (backoff : Backoff) : Policy where
  maxAttempts := if maxAttempts = 0 then 1 else maxAttempts
  backoff

/-- A budget with the same delay each time. -/
def fixed (maxAttempts : UInt32) (delay : Duration) : Policy :=
  ofAttempts maxAttempts (.fixed delay)

/-- A budget whose delay doubles. -/
def doubling (maxAttempts : UInt32) (initial greatest : Duration) : Policy :=
  ofAttempts maxAttempts (.exponential initial 2 greatest)

/-- The budget for a kind of change. -/
def forConsistency : Consistency → Policy
  | .relationalWrite => fixed 20 (.ofMilliseconds 500)
  | .seriesIngest => fixed 40 (.ofSeconds 1)
  | .serviceStartup => doubling 30 (.ofMilliseconds 100) (.ofSeconds 2)
  | .infraReadiness => fixed 60 (.ofSeconds 1)

/-- The sum of the delays after the attempts of these numbers. -/
def totalDelay (backoff : Backoff) (attempts : List Nat) : Duration :=
  attempts.foldl (fun total attempt => total.add (backoff.delayAfter (UInt32.ofNat attempt))) .zero

/-- The sum of all delays when every attempt is made. The last attempt has none after it. -/
def maxTotalDelay (policy : Policy) : Duration :=
  totalDelay policy.backoff (List.range' 1 (policy.maxAttempts.toNat - 1))

end Policy

end Testbed
