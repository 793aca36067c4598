/-
This file defines the scope of one test: its environment, the services that were launched in it, and
the teardown steps that the test registered. Finishing stops the services, the newest first, then
runs the registered steps, and then stops the environment. It does so only once.
-/

import Testbed.Environment.Environment
import Testbed.Service.Manager

namespace Testbed

open Text

/-- The scope of a test. -/
structure Scope where
  environment : Environment
  /-- The services in the order in which they were registered. -/
  processes : List Process := []
  /-- The steps that the test registered. -/
  deferred : Teardown := .empty
  isFinished : Bool := false

namespace Scope

/-- Starts a scope with everything that a test requires. -/
def start (settings : Settings) (required : RequiredResources) :
    Work (Except ProvisioningError Scope) := do
  match ← Environment.start settings required with
  | .error error => return .error error
  | .ok environment => return .ok { environment }

/-! ### Registering -/

/-- Registers a process. -/
def launch (scope : Scope) (process : Process) : Scope :=
  { scope with processes := scope.processes ++ [process] }

/-- Registers a teardown step. -/
def defer (scope : Scope) (step : TeardownStep) : Scope :=
  { scope with deferred := scope.deferred.push step }

/-- Prepares a launch, registers the process and spawns it. A process that can not be spawned stays
registered. -/
def startService (scope : Scope) (manager : Manager) (launch : Launch) :
    Work (Except LaunchError Unit × Scope) := do
  match ← manager.prepare launch with
  | .error error => return (.error error, scope)
  | .ok process =>
    let (spawned, process) ← process.spawn
    return (spawned, scope.launch process)

/-! ### Finishing -/

/-- Stops processes, the last one first. -/
def stopNewestFirst : List Process → Work Unit
  | [] => return ()
  | process :: newer => do
    stopNewestFirst newer
    let _ ← process.stop

/-- Runs the registered steps and notes how many failed. -/
def runDeferred (deferred : Teardown) : Work Teardown := do
  let (failures, deferred) ← deferred.run
  if failures = 0 then return deferred
  else do
    note .warn "lake.env" "Deferred teardown steps failed" [("failures", .number failures)]
    return deferred

/-- Stops the services, the newest first, runs the registered steps and stops the environment, the
first time it is asked to. -/
def finish (scope : Scope) : Work Scope :=
  if scope.isFinished then return scope
  else do
    stopNewestFirst scope.processes
    let deferred ← runDeferred scope.deferred
    let environment ← scope.environment.stop
    note .info "lake.env" "Test scope finished" []
    return { environment, processes := [], deferred, isFinished := true }

/-! ### Leaving behind -/

/-- Leaves processes behind, one after another. -/
def dropAll : List Process → Work Unit
  | [] => return ()
  | process :: rest => do
    process.drop
    dropAll rest

/-- Notes that a scope is left behind without having been finished. -/
def noteUnfinished (scope : Scope) : Work Unit :=
  if scope.isFinished then return ()
  else
    note .warn "lake.env" "Test scope dropped without finish()"
      [("processes", .number scope.processes.length), ("deferred", .number scope.deferred.size)]

/-- Leaves a scope behind. Services that still run are killed; nothing else is taken away. -/
def drop (scope : Scope) : Work Unit := do
  scope.noteUnfinished
  scope.environment.drop
  dropAll scope.processes

def inspect (scope : Scope) : String :=
  inspectRecord "TestScope"
    [("environment", scope.environment.inspect),
      ("processes", inspectList (scope.processes.map Process.inspect)),
      ("deferred", toString scope.deferred.size), ("finished", inspectBool scope.isFinished)]

end Scope

end Testbed
