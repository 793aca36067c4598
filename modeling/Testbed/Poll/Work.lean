/-
This file carries retrievals out as work on the world outside: a fetch is some other work, values
are judged by a test, and nothing cancels the retrieval.
-/

import Testbed.Poll.Retrieve
import Testbed.Outside

namespace Testbed.Poll

variable {Value Failure : Type}

/-- How each action of a retrieval that nothing cancels is carried out. -/
def uncancelled (fetch : Work (Except Failure Value)) (accepts : Value → Work Bool) :
    (action : Poll.Action Value Failure) → Work (Poll.Reply action)
  | .askCancelled => .done false
  | .fetch => fetch
  | .judge value => accepts value
  | .pause delay => do
    ask (.sleep delay)
    return .elapsed
  | .note event => ask (.note event)

/-- Fetches until a value is accepted or the budget is spent. -/
def retrieveAccepted (describe : Failure → String) (fetch : Work (Except Failure Value))
    (accepts : Value → Work Bool) (policy : Policy) : Work (Outcome Value Failure) :=
  (retrieval describe policy).carriedOut (uncancelled fetch accepts)

/-- Fetches until a fetch succeeds or the budget is spent. -/
def retrieve (describe : Failure → String) (fetch : Work (Except Failure Value))
    (policy : Policy) : Work (Outcome Value Failure) :=
  retrieveAccepted describe fetch (fun _ => .done true) policy

/-- Whether a list has at least so many elements. -/
def reaches (expected : Nat) (values : List Value) : Bool :=
  expected ≤ values.length

/-- Fetches until a list has at least so many elements or the budget is spent. -/
def retrieveCount (describe : Failure → String) (fetch : Work (Except Failure (List Value)))
    (expected : Nat) (policy : Policy) : Work (Outcome (List Value) Failure) :=
  retrieveAccepted describe fetch (fun values => .done (reaches expected values)) policy

end Testbed.Poll
