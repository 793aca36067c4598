/-
This file defines how a retrieval ends, and the views of its end that a test asks for: the value or
an error, and the last value seen together with the error.
-/

namespace Testbed.Poll

variable {Value Failure : Type}

/-- How a retrieval ends. -/
inductive Outcome (Value Failure : Type) where
  /-- The value was accepted. -/
  | satisfied (value : Value) (attempts : UInt32)
  /-- The last attempt fetched a value that was not accepted. -/
  | exhausted (last : Option Value) (attempts : UInt32)
  /-- The last attempt failed. -/
  | failed (failure : Failure) (last : Option Value) (attempts : UInt32)
  /-- The retrieval was cancelled between attempts. -/
  | cancelled (last : Option Value) (attempts : UInt32)

/-- Why a retrieval has no accepted value. -/
inductive Shortfall (Failure : Type) where
  | timeout (attempts : UInt32)
  | fetch (failure : Failure) (attempts : UInt32)
  | cancelled (attempts : UInt32)

/-- The words for a shortfall. -/
def Shortfall.message (describe : Failure → String) : Shortfall Failure → String
  | timeout attempts => "Condition not met after " ++ toString attempts.toNat ++ " attempts"
  | fetch failure attempts =>
    "Fetch failed on final attempt " ++ toString attempts.toNat ++ ": " ++ describe failure
  | cancelled attempts => "Polling cancelled after " ++ toString attempts.toNat ++ " attempts"

namespace Outcome

/-- Whether the value was accepted. -/
def isSatisfied : Outcome Value Failure → Bool
  | satisfied .. => true
  | _ => false

/-- The fetches that were made. -/
def attempts : Outcome Value Failure → UInt32
  | satisfied _ attempts => attempts
  | exhausted _ attempts => attempts
  | failed _ _ attempts => attempts
  | cancelled _ attempts => attempts

/-- The last value seen, and the shortfall if there is one. -/
def toPair : Outcome Value Failure → Option Value × Option (Shortfall Failure)
  | satisfied value _ => (some value, none)
  | exhausted last attempts => (last, some (.timeout attempts))
  | failed failure last attempts => (last, some (.fetch failure attempts))
  | cancelled last attempts => (last, some (.cancelled attempts))

/-- The accepted value, or the shortfall. -/
def toResult : Outcome Value Failure → Except (Shortfall Failure) Value
  | satisfied value _ => .ok value
  | exhausted _ attempts => .error (.timeout attempts)
  | failed failure _ attempts => .error (.fetch failure attempts)
  | cancelled _ attempts => .error (.cancelled attempts)

end Outcome

end Testbed.Poll
