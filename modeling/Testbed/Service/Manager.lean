/-
This file prepares and starts services with the settings of a run. A child gets the variables that
are passed through to every service and those of its plan, and no others.
-/

import Testbed.Service.Process
import Testbed.Settings

namespace Testbed

/-- Prepares services with the settings of a run. -/
structure Manager where
  settings : Settings

namespace Manager

open Outside

/-- The manager with an executable chosen for a role. -/
def withExecutable (manager : Manager) (role : Role) (path : String) : Manager where
  settings := manager.settings.withExecutable role path

/-- The executable of a role. -/
def executable (manager : Manager) (role : Role) : String :=
  manager.settings.executable role

/-- The variables of a child: those passed through and those of the plan. -/
def childVariables (manager : Manager) (plan : Plan) : List (String × String) :=
  Sorted.putAll plan.bindings.entries (Sorted.putAll manager.settings.passedThrough [])

/-- The process for a plan, not spawned yet. -/
def process (manager : Manager) (plan : Plan) : Process where
  role := plan.role
  path := manager.executable plan.role
  bindings := plan.bindings
  arguments := plan.arguments
  port := plan.port
  stage := .created
    { path := manager.executable plan.role
      arguments := plan.arguments
      bindings := manager.childVariables plan }

/-- Prepares a launch. Nothing is spawned. -/
def prepare (manager : Manager) (launch : Launch) : Work (Except LaunchError Process) :=
  match launch.render with
  | .error error => return .error error
  | .ok plan => do
    let process := manager.process plan
    process.noteProcess .debug "Prepared service launch"
      [("path", .text process.path), ("env", .text plan.bindings.inspect),
        ("args", .text (Process.inspectArguments plan.arguments))]
    return .ok process

/-- Prepares a launch and spawns it. A process that can not be spawned is left behind. -/
def start (manager : Manager) (launch : Launch) : Work (Except LaunchError Process) := do
  match ← manager.prepare launch with
  | .error error => return .error error
  | .ok process =>
    let (spawned, process) ← process.spawn
    match spawned with
    | .ok () => return .ok process
    | .error error =>
      process.drop
      return .error error

end Manager

end Testbed
