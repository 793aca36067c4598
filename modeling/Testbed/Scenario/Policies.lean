/-
This file reads policies of retrievals and what is laid down about a retrieval out of a scenario,
and writes policies and outcomes into its account.
-/

import Testbed.Json.Decode
import Testbed.Json.Encode
import Testbed.Poll.Work
import Testbed.Rehearsal.Retrieval
import Testbed.Scenario.Account

namespace Testbed

open Decode Encode

/-! ### Policies -/

namespace Backoff

def ofJson? : Decode Backoff := fun input => do
  match input.get? "fixed", input.get? "exponential" with
  | some delay, _ => return .fixed (← duration delay)
  | none, some growth =>
    return .exponential (← required duration growth "initial") (← required uint32 growth "factor")
      (← required duration growth "max")
  | none, none => none

def toJson : Backoff → Json
  | .fixed delay => record [("fixed", delay.toJson)]
  | .exponential initial factor greatest =>
    record [("exponential", record
      [("initial", initial.toJson), ("factor", nat factor.toNat), ("max", greatest.toJson)])]

end Backoff

def Consistency.ofName? : String → Option Consistency
  | "RelationalWrite" => some .relationalWrite
  | "SeriesIngest" => some .seriesIngest
  | "ServiceStartup" => some .serviceStartup
  | "InfraReadiness" => some .infraReadiness
  | _ => none

namespace Policy

/-- Reads a policy, which is named, built, or given as it is. -/
def ofJson? : Decode Policy := fun input => do
  match ← members input with
  | [("category", name)] => return .forConsistency (← (string name).bind Consistency.ofName?)
  | [("fixed", policy)] =>
    return .fixed (← required uint32 policy "max_attempts") (← required duration policy "delay")
  | [("exponential", policy)] =>
    return .doubling (← required uint32 policy "max_attempts")
      (← required duration policy "initial") (← required duration policy "max")
  | [("new", policy)] =>
    return .ofAttempts (← required uint32 policy "max_attempts")
      (← required Backoff.ofJson? policy "backoff")
  | [("raw", policy)] =>
    return {
      maxAttempts := ← required uint32 policy "max_attempts"
      backoff := ← required Backoff.ofJson? policy "backoff" }
  | _ => none

def toJson (policy : Policy) : Json :=
  record [("max_attempts", nat policy.maxAttempts.toNat), ("backoff", policy.backoff.toJson)]

end Policy

/-! ### Outcomes -/

namespace Poll

def Shortfall.toJson (shortfall : Shortfall String) : Json :=
  failureText (match shortfall with
    | .timeout _ => "Timeout"
    | .fetch .. => "Fetch"
    | .cancelled _ => "Cancelled") (shortfall.message id)

namespace Outcome

/-- The name of an outcome. -/
def kind : Outcome Json String → String
  | satisfied .. => "Satisfied"
  | exhausted .. => "Exhausted"
  | failed .. => "Failed"
  | cancelled .. => "Cancelled"

/-- What an outcome tells besides its name. -/
def details : Outcome Json String → List (String × Json)
  | satisfied value _ => [("value", value)]
  | exhausted last _ => [("last", last.getD .null)]
  | failed error last _ => [("error", text error), ("last", last.getD .null)]
  | cancelled last _ => [("last", last.getD .null)]

/-- An outcome and its views. -/
def account (outcome : Outcome Json String) : List (String × Json) :=
  let attempts := nat outcome.attempts.toNat
  let (last, shortfall) := outcome.toPair
  [("outcome", record
      ([("kind", text outcome.kind), ("attempts", attempts)] ++ outcome.details)),
    ("is_satisfied", .bool outcome.isSatisfied), ("attempts", attempts),
    ("pair", .array [last.getD .null, nullable Shortfall.toJson shortfall]),
    ("result", result Shortfall.toJson id outcome.toResult)]

/-- Reads an outcome. -/
def ofJson? : Decode (Outcome Json String) := fun input => do
  let attempts ← required uint32 input "attempts"
  let last := given input "last"
  match ← required string input "kind" with
  | "Satisfied" => return satisfied (← input.get? "value") attempts
  | "Exhausted" => return exhausted last attempts
  | "Failed" => return failed (← required string input "error") last attempts
  | "Cancelled" => return cancelled last attempts
  | _ => none

/-- The outcome with its values as other values. -/
def mapValue {Value Other : Type} (convert : Value → Other) :
    Outcome Value String → Outcome Other String
  | satisfied value attempts => satisfied (convert value) attempts
  | exhausted last attempts => exhausted (last.map convert) attempts
  | failed cause last attempts => failed cause (last.map convert) attempts
  | cancelled last attempts => cancelled (last.map convert) attempts

end Outcome

end Poll

/-! ### Retrievals -/

namespace Rehearsal

namespace Fetch

def ofJson? : Decode (Fetch Json String) := fun input => do
  let milliseconds := (← optionalOr 0 uint64 input "took_ms").toNat
  match input.get? "ok", input.get? "err" with
  | some value, _ => return { result := .ok value, milliseconds }
  | none, some error => return { result := .error (← string error), milliseconds }
  | none, none => none

/-- The fetch of a list. It fails where there is another value. -/
def ofList (fetch : Fetch Json String) : Fetch (List Json) String :=
  { fetch with
    result := fetch.result.bind fun value =>
      match value with
      | .array elements => .ok elements
      | _ => .error "not a list" }

end Fetch

def Cancellation.ofJson? : Decode Cancellation
  | .string "before" => some .before
  | .object [("in_fetch", number)] => (uint64 number).map fun number => .duringFetch number.toNat
  | .object [("at_ms", time)] => (uint64 time).map fun time => .at time.toNat
  | _ => none

/-- Whether a value is a signed number of 64 bits and no less than another. -/
def isAtLeast (least : Int64) : Json → Bool
  | .number value => value.toInt64?.any fun value => least ≤ value
  | _ => false

/-- Reads which values are accepted, and at which judgement. -/
def acceptance? : Decode (Nat → Json → Bool)
  | .string "always" => some fun _ _ => true
  | .string "never" => some fun _ _ => false
  | .object [("min", least)] => (int64 least).map fun least _ => isAtLeast least
  | .object [("eq", expected)] => some fun _ value => value.equal expected
  | .object [("call", number)] => (uint64 number).map fun number judgement _ =>
    judgement == number.toNat
  | _ => none

/-- The outcome of a retrieval and its course. -/
def Course.account (course : Course) (outcome : Poll.Outcome Json String) (judgements : Nat) :
    Json :=
  record (outcome.account ++
    [("elapsed_ms", nat course.elapsed), ("fetch_at_ms", array nat course.fetches.reverse),
      ("predicate_calls", nat judgements), ("log", array Event.toJson course.notes.reverse)])

/-- Rehearses a retrieval. One that waits for so many elements judges no value by itself. -/
def retrieving? (input : Json) : Option Json := do
  let policy ← required Policy.ofJson? input "policy"
  let cancellation ← optionalOr .never Cancellation.ofJson? input "cancel"
  match ← required (listOf Fetch.ofJson?) input "fetch" with
  | [] => none
  | first :: others =>
    match ← optionalOr "retrieve" string input "mode" with
    | "retrieve_count" =>
      let expected ← required uint64 input "expected_len"
      let script : Script (List Json) String :=
        { first := first.ofList
          others := others.map Fetch.ofList
          accepts := fun _ values => Poll.reaches expected.toNat values }
      let (outcome, course) := script.rehearse id policy
      return course.account (outcome.mapValue Json.array) 0
    | mode =>
      let accepts ← required acceptance? input "satisfied"
      let script : Script Json String := { first, others, accepts }
      let script ← match mode with
        | "retrieve" => some script
        | "retrieve_until_cancelled" => some { script with cancellation }
        | _ => none
      let (outcome, course) := script.rehearse id policy
      return course.account outcome course.judgements

end Rehearsal

end Testbed
