/-
This file defines retrievals: a value is fetched again and again until it is accepted, within a
budget of attempts. A failed fetch counts as an attempt. A retrieval can be cancelled between
attempts, never in the middle of a fetch; the result of a fetch under way is still judged.
-/

import Testbed.Session
import Testbed.Log.Event
import Testbed.Poll.Policy
import Testbed.Poll.Outcome

namespace Testbed.Poll

variable {Value Failure : Type}

/-- How a pause between attempts ends. -/
inductive Wake where
  | elapsed
  | cancelled
  deriving DecidableEq, Repr

/-- What a retrieval does. -/
inductive Action (Value Failure : Type) where
  /-- Ask whether the retrieval was cancelled. -/
  | askCancelled
  | fetch
  | judge (value : Value)
  | pause (delay : Duration)
  | note (event : Event)

/-- What each action of a retrieval is answered with. -/
abbrev Reply : Action Value Failure → Type
  | .askCancelled => Bool
  | .fetch => Except Failure Value
  | .judge _ => Bool
  | .pause _ => Wake
  | .note _ => Unit

/-- A part of a retrieval, with its result. -/
abbrev Part (Value Failure Result : Type) :=
  Session (Action Value Failure) Reply Result

/-! ### The attempts -/

/-- Asks whether the retrieval was cancelled. -/
def askCancelled : Part Value Failure Bool :=
  .act .askCancelled .done

/-- Fetches a value. -/
def fetch : Part Value Failure (Except Failure Value) :=
  .act .fetch .done

/-- Asks whether a value is accepted. -/
def judge (value : Value) : Part Value Failure Bool :=
  .act (.judge value) .done

/-- Waits, unless the retrieval is cancelled meanwhile. -/
def pause (delay : Duration) : Part Value Failure Wake :=
  .act (.pause delay) .done

/-- Notes an event. -/
def note (level : Level) (message : String) (fields : List (String × FieldValue)) :
    Part Value Failure Unit :=
  .act (.note { level, target := "lake.poll", message, fields }) .done

/-- The field for the attempts made. -/
def attemptsField (attempts : UInt32) : String × FieldValue :=
  ("attempts", .number attempts.toNat)

/-- Ends a cancelled retrieval. -/
def endCancelled (last : Option Value) (attempts : UInt32) :
    Part Value Failure (Outcome Value Failure) := do
  note .debug "Polling cancelled" [attemptsField attempts]
  return .cancelled last attempts

/-- Ends a retrieval whose budget is spent: as failed if the last fetch failed. -/
def endSpent (describe : Failure → String) (failure : Option Failure) (last : Option Value)
    (attempts : UInt32) : Part Value Failure (Outcome Value Failure) :=
  match failure with
  | some failure => do
    note .warn "Polling failed on final attempt"
      [attemptsField attempts, ("error", .text (describe failure))]
    return .failed failure last attempts
  | none => do
    note .warn "Polling exhausted" [attemptsField attempts]
    return .exhausted last attempts

/-- What one attempt leads to. -/
inductive Attempt (Value Failure : Type) where
  | accepted (value : Value)
  | rejected (value : Value)
  | failed (failure : Failure)

/-- One attempt: a fetch, and the judgement of what it fetched. -/
def attempt (describe : Failure → String) (number : UInt32) :
    Part Value Failure (Attempt Value Failure) := do
  match ← fetch with
  | .ok value =>
    if ← judge value then return .accepted value
    return .rejected value
  | .error failure =>
    note .debug "Fetch failed, will retry"
      [("attempt", .number number.toNat), ("error", .text (describe failure))]
    return .failed failure

/-- What follows the attempt of a number: the end, if its value was accepted. -/
def follow (number : UInt32) (last : Option Value)
    (goOn : UInt32 → Option Value → Option Failure → Part Value Failure (Outcome Value Failure)) :
    Attempt Value Failure → Part Value Failure (Outcome Value Failure)
  | .accepted value => do
    note .debug "Condition satisfied" [attemptsField number]
    return .satisfied value number
  | .rejected value => goOn number (some value) none
  | .failed failure => goOn number last (some failure)

/-- Makes the attempt after those made, unless the retrieval is cancelled, and goes on when its
value is not accepted. -/
def round (describe : Failure → String) (made : UInt32) (last : Option Value)
    (goOn : UInt32 → Option Value → Option Failure → Part Value Failure (Outcome Value Failure)) :
    Part Value Failure (Outcome Value Failure) := do
  if ← askCancelled then endCancelled last made
  else
    let attempted ← attempt describe (made + 1)
    follow (made + 1) last goOn attempted

/-- Makes an attempt after those made, and at most so many more behind it, with a pause before
each. -/
def rounds (describe : Failure → String) (backoff : Backoff) :
    (more : Nat) → (made : UInt32) → (last : Option Value) →
      Part Value Failure (Outcome Value Failure)
  | 0, made, last => round describe made last fun number last failure =>
    endSpent describe failure last number
  | more + 1, made, last => round describe made last fun number last _ => do
    match ← pause (backoff.delayAfter number) with
    | .cancelled => endCancelled last number
    | .elapsed => rounds describe backoff more number last

/-- Fetches until a value is accepted, the budget is spent or the retrieval is cancelled. -/
def retrieval (describe : Failure → String) (policy : Policy) :
    Part Value Failure (Outcome Value Failure) :=
  rounds describe policy.backoff (policy.attempts - 1) 0 none

end Testbed.Poll
