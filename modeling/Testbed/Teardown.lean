/-
This file defines stacks of teardown steps. The step that was registered last runs first, and every
step runs even if another failed: failures are noted and counted, and never keep a step from
running. A stack is empty after its run, so no step runs twice.
-/

import Testbed.Outside
import Testbed.Text.Inspection

namespace Testbed

/-- A step of a teardown. -/
structure TeardownStep where
  name : String
  run : Work (Except String Unit)

/-- A step whose failures have words of their own. -/
def TeardownStep.describing {Failure : Type} (name : String) (describe : Failure → String)
    (run : Work (Except Failure Unit)) : TeardownStep where
  name
  run := do
    match ← run with
    | .ok () => return .ok ()
    | .error failure => return .error (describe failure)

/-- Steps of a teardown, the newest first. -/
structure Teardown where
  newestFirst : List TeardownStep

namespace Teardown

/-- No steps. -/
def empty : Teardown where
  newestFirst := []

/-- Registers a step. -/
def push (teardown : Teardown) (step : TeardownStep) : Teardown where
  newestFirst := step :: teardown.newestFirst

/-- Registers a step whose failures have words of their own. -/
def pushFailing {Failure : Type} (teardown : Teardown) (name : String)
    (describe : Failure → String) (run : Work (Except Failure Unit)) : Teardown :=
  teardown.push (.describing name describe run)

/-- The number of steps. -/
def size (teardown : Teardown) : Nat :=
  teardown.newestFirst.length

/-- Runs a step and notes what became of it. Gives the number of failures. -/
def runStep (step : TeardownStep) : Work Nat := do
  match ← step.run with
  | .ok () =>
    note .debug "lake.env" "Cleanup step done" [("step", .text step.name)]
    return 0
  | .error cause =>
    note .warn "lake.env" "Cleanup step failed" [("step", .text step.name), ("error", .text cause)]
    return 1

/-- Runs steps one after another. Gives the number of failures. -/
def runSteps : List TeardownStep → Work Nat
  | [] => return 0
  | step :: rest => do
    let failures ← runStep step
    let others ← runSteps rest
    return failures + others

/-- Runs all steps, the newest first. Gives the number of failures and the empty stack. -/
def run (teardown : Teardown) : Work (Nat × Teardown) := do
  let failures ← runSteps teardown.newestFirst
  return (failures, empty)

def inspect (teardown : Teardown) : String :=
  Text.inspectList (teardown.newestFirst.reverse.map fun step => Text.quoted step.name)

end Teardown

end Testbed
