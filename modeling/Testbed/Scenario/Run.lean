/-
This file defines what happens on a machine while a scenario is followed. A scenario that is not
well formed has no account, whatever was done before that showed.
-/

import Testbed.Json.Decode
import Testbed.Json.Encode
import Testbed.Rehearsal.Machine
import Testbed.Scenario.Account
import Testbed.Teardown

namespace Testbed.Scenario

open Decode Encode Rehearsal

/-- What happens on a machine. -/
abbrev Run := StateT Machine Option

variable {Value State : Type}

/-- Work on the machine. -/
def perform (work : Work Value) : Run Value := fun machine =>
  some (machine.rehearse work)

/-- The scenario is not well formed. -/
def refuse : Run Value := fun _ => none

/-- What was read out of a scenario. -/
def read (value : Option Value) : Run Value := fun machine =>
  value.map fun value => (value, machine)

/-- What a run on a machine gives. -/
def runOn (machine : Machine) (run : Run Value) : Option Value :=
  (run.run machine).map (·.1)

/-! ### What was recorded -/

/-- The events since they were last asked for. -/
def takeLog : Run Json := fun machine =>
  let (events, machine) := machine.takeEvents
  some (array Event.toJson events, machine)

/-- The tasks since they were last asked for. -/
def takeTasks : Run Json := fun machine =>
  let (tasks, machine) := machine.takeTasks
  some (texts tasks, machine)

/-- What the compose program and the servers were asked since this was last asked for. No request
reaches a server without a network. -/
def takeSeen : Run Json := fun machine =>
  let (runs, machine) := machine.takeComposeRuns
  some (record
    [("http", .array []), ("pg", .array []), ("kafka", .array []), ("docker", array texts runs)],
    machine)

/-! ### Steps -/

/-- Follows steps one after another. Gives an account of each and what they leave. -/
def followAll (follow : State → Json → Run (Json × State))
    (account : Json → State → Run Json) : List Json → State → Run (List Json × State)
  | [], state => return ([], state)
  | step :: rest, state => do
    let (reply, state) ← follow state step
    let first ← account reply state
    let (others, last) ← followAll follow account rest state
    return (first :: others, last)

/-! ### Teardowns -/

/-- A step that is recorded when it runs, and fails if it has words for a failure. -/
def recordedStep (name : String) (cause : Option String) : TeardownStep where
  name
  run := do
    ask (.task name)
    match cause with
    | none => return .ok ()
    | some cause => return .error cause

/-- Reads a step from its name and its failure. -/
def recordedStep? : List Json → Option TeardownStep
  | [name] => (string name).map fun name => recordedStep name none
  | [name, .null] => (string name).map fun name => recordedStep name none
  | [name, cause] => do return recordedStep (← string name) (some (← string cause))
  | _ => none

/-- Follows a step about a teardown. -/
def followTeardown (teardown : Teardown) (step : Json) : Run (Json × Teardown) := do
  match ← read (list step) with
  | .string "push" :: arguments =>
    return (.null, teardown.push (← read (recordedStep? arguments)))
  | [.string "run"] =>
    let (failures, emptied) ← perform teardown.run
    return (record [("failures", nat failures), ("ran", ← takeTasks), ("log", ← takeLog)], emptied)
  | [.string "debug"] => return (text teardown.inspect, teardown)
  | [.string "is_empty"] => return (.bool (teardown.size == 0), teardown)
  | _ => refuse

end Testbed.Scenario
