/-
This file rehearses retrievals on a clock of its own. What each fetch gives, how long it takes and
when the retrieval is cancelled is laid down beforehand. Time passes only while a fetch or a pause
lasts, and every pause ends on a whole millisecond. No wait lasts longer than thirty years.
-/

import Testbed.Poll.Retrieve

namespace Testbed.Rehearsal

variable {Value Failure : Type}

/-- One fetch: what it gives and the milliseconds that it takes. -/
structure Fetch (Value Failure : Type) where
  result : Except Failure Value
  milliseconds : Nat := 0

/-- When a retrieval is cancelled. -/
inductive Cancellation where
  | never
  /-- Before it begins. -/
  | before
  /-- While the fetch of a number is under way, the first having the number one. -/
  | duringFetch (number : Nat)
  /-- So many milliseconds after it began, once any wait is under way. -/
  | at (milliseconds : Nat)
  deriving DecidableEq, Repr

/-- What is laid down about a retrieval. -/
structure Script (Value Failure : Type) where
  first : Fetch Value Failure
  /-- The fetches after the first. The last of all repeats. -/
  others : List (Fetch Value Failure)
  /-- Whether a value is accepted at the judgement of a number, the first having the number one. -/
  accepts : (judgement : Nat) → Value → Bool
  cancellation : Cancellation := .never

namespace Script

/-- The fetch of a number, the first having the number zero. -/
def fetch (script : Script Value Failure) : Nat → Fetch Value Failure
  | 0 => script.first
  | number + 1 => script.others.getD number (script.others.getLastD script.first)

end Script

/-- How far a retrieval has come. -/
structure Course where
  /-- The nanoseconds that have passed. -/
  now : Nat := 0
  /-- When each fetch began, in milliseconds, the latest first. -/
  fetches : List Nat := []
  /-- The number of fetches. -/
  made : Nat := 0
  judgements : Nat := 0
  /-- Whether the retrieval was cancelled by a fetch. -/
  isCancelled : Bool := false
  /-- The events that were noted, the latest first. -/
  notes : List Event := []

namespace Course

/-- The nanoseconds of a millisecond. -/
def millisecond : Nat := 1000000

/-- The next whole millisecond. -/
def wholeMillisecond (nanoseconds : Nat) : Nat :=
  (nanoseconds + (millisecond - 1)) / millisecond * millisecond

/-- The nanoseconds of the longest wait, which is thirty years of 365 days. -/
def longestWait : Nat := 30 * 365 * 24 * 60 * 60 * 1000000000

/-- The nanoseconds that a wait of a length lasts. -/
def lasting (nanoseconds : Nat) : Nat :=
  min nanoseconds longestWait

/-- When a retrieval is cancelled that is so after a number of milliseconds. -/
def cancelledAt (milliseconds : Nat) : Nat :=
  lasting (milliseconds * millisecond)

/-- Whether the retrieval is cancelled by now. Before any time has passed no clock cancels it. -/
def cancelled (course : Course) : Cancellation → Bool
  | .never => false
  | .before => true
  | .duringFetch _ => course.isCancelled
  | .at milliseconds => 0 < course.now && cancelledAt milliseconds ≤ course.now

/-- The course after a fetch. -/
def afterFetch (course : Course) (fetch : Fetch Value Failure) (cancellation : Cancellation) :
    Course :=
  { course with
    now := course.now + lasting (fetch.milliseconds * millisecond)
    fetches := course.now / millisecond :: course.fetches
    made := course.made + 1
    isCancelled := course.isCancelled || cancellation == .duringFetch (course.made + 1) }

/-- The course after a pause, which a cancellation ends early. -/
def afterPause (course : Course) (delay : Duration) (cancellation : Cancellation) :
    Poll.Wake × Course :=
  let wake := wholeMillisecond (course.now + lasting delay.nanoseconds)
  if course.cancelled cancellation then (.cancelled, course)
  else match cancellation with
    | .at milliseconds =>
      if cancelledAt milliseconds < wake then
        (.cancelled, { course with now := cancelledAt milliseconds })
      else (.elapsed, { course with now := wake })
    | _ => (.elapsed, { course with now := wake })

/-- The milliseconds that have passed. -/
def elapsed (course : Course) : Nat :=
  course.now / millisecond

end Course

namespace Script

/-- The answer to an action of a retrieval, and how far the retrieval has come with it. -/
def answer (script : Script Value Failure) :
    (action : Poll.Action Value Failure) → Course → Poll.Reply action × Course
  | .askCancelled, course => (course.cancelled script.cancellation, course)
  | .fetch, course =>
    let fetch := script.fetch course.made
    (fetch.result, course.afterFetch fetch script.cancellation)
  | .judge value, course =>
    let judgement := course.judgements + 1
    (script.accepts judgement value, { course with judgements := judgement })
  | .pause delay, course => course.afterPause delay script.cancellation
  | .note event, course => ((), { course with notes := event :: course.notes })

/-- The outcome of a retrieval and its whole course. -/
def rehearse (script : Script Value Failure) (describe : Failure → String) (policy : Policy) :
    Poll.Outcome Value Failure × Course :=
  (Poll.retrieval describe policy).run script.answer {}

end Script

end Testbed.Rehearsal
