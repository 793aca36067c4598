/-
This file follows steps of a scenario about scopes, and carries out the bodies that a scenario lays
down in scopes of their own.
-/

import Testbed.Scenario.Environments
import Testbed.Scenario.Services
import Testbed.Scope.Body

namespace Testbed.Scenario

open Decode Encode

/-! ### Services in a scope -/

/-- A service to start, or only to prepare, in a scope. -/
structure ScopedService where
  launch : Launch
  installation : Installation
  isPreparedOnly : Bool

namespace ScopedService

def ofJson? : Decode ScopedService := fun input => do
  return {
    launch := ← required Launch.ofJson? input "launch"
    installation := ← required Installation.ofJson? input "exe"
    isPreparedOnly := ← optionalOr false bool input "prepared_only" }

/-- Installs the service of a number and gives the manager that finds it. -/
def install (service : ScopedService) (settings : Settings) (number : Nat) : Run Manager := do
  let path ← service.installation.install ("<tmp>/service-" ++ toString number)
  return (Manager.mk settings).withExecutable service.launch.role path

end ScopedService

/-- The stage of the newest process of a scope. -/
def newestStage (scope : Scope) : Json :=
  nullable (fun process => text (Stage.name process.stage)) scope.processes.getLast?

/-- The account of starting a service. -/
def startAccount (scope : Scope) : Except LaunchError Unit → Json :=
  result LaunchError.toJson fun _ => newestStage scope

/-- Starts or prepares a service in a scope. -/
def scopeService (settings : Settings) (number : Nat) (scope : Scope) (service : ScopedService) :
    Run (Json × Scope) := do
  let manager ← service.install settings number
  if service.isPreparedOnly then
    match ← perform (manager.prepare service.launch) with
    | .error error => return (error.toJson, scope)
    | .ok process => return (ok (newestStage (scope.launch process)), scope.launch process)
  else
    let (started, scope) ← perform (scope.startService manager service.launch)
    return (startAccount scope started, scope)

/-! ### Steps -/

/-- A scope and the number of services that were started in it. -/
structure Staged where
  scope : Scope
  services : Nat := 0

def scopeJson (scope : Scope) : Json :=
  record
    [("processes", array (fun process =>
        texts [process.role.executableName, process.stage.name]) scope.processes),
      ("environment_stopped", .bool scope.environment.isStopped)]

/-- Follows a step about a scope. -/
def followScope (settings : Settings) (staged : Staged) (step : Json) : Run (Json × Staged) := do
  let scope := staged.scope
  match ← read (list step) with
  | [.string "service", service] =>
    let service ← read (ScopedService.ofJson? service)
    let (reply, scope) ← scopeService settings staged.services scope service
    return (reply, { scope, services := staged.services + 1 })
  | [.string "defer", .array arguments] =>
    return (.null, { staged with scope := scope.defer (← read (recordedStep? arguments)) })
  | [.string "topic", name] =>
    let name ← read (string name)
    let (ensured, scope) ← perform (scope.perform (.ensureTopic name))
    return (result ProvisioningError.toJson TopicHandle.toJson ensured, { staged with scope })
  | [.string "finish"] =>
    let scope ← perform scope.finish
    return (.null, { staged with scope })
  | [.string "debug"] =>
    return (text (scope.processes.foldl (fun shown process => withoutNumber process shown)
      scope.inspect), staged)
  | _ => refuse

/-- The account of a step about a scope. -/
def scopeAccount (reply : Json) (staged : Staged) : Run Json := do
  return record
    [("r", reply), ("state", scopeJson staged.scope), ("ran", ← takeTasks), ("seen", ← takeSeen),
      ("log", ← takeLog)]

/-- Starts a scope, follows steps about it and leaves it behind. -/
def scopeRun (settings : Settings) (required : RequiredResources) (steps : List Json) :
    Run Json := do
  match ← perform (Scope.start settings required) with
  | .error cause => unstarted cause
  | .ok scope =>
    let start := record [("ok", scopeJson scope), ("seen", ← takeSeen), ("log", ← takeLog)]
    let (accounts, staged) ← followAll (followScope settings) scopeAccount steps { scope }
    perform staged.scope.drop
    return record [("start", start), ("steps", .array accounts), ("dropped", ← takeLog)]

/-! ### Bodies -/

/-- How a body ends. -/
inductive Manner where
  | returns (value : Json)
  | fails (message : String)
  | panics
  /-- It panics before it starts any service. -/
  | panicsEarly

def Manner.ofJson? : Decode Manner := fun input => do
  match ← required string input "body" with
  | "ok" => return .returns ((input.get? "value").getD .null)
  | "err" => return .fails (← optionalOr "failed" string input "message")
  | "panic" => return .panics
  | "panic_early" => return .panicsEarly
  | _ => none

/-- A value, and the accounts of the services that were started before it. -/
abbrev Noted (Value : Type) := Value × List Json

/-- What a body of a scenario does in its scope. -/
abbrev Acting (Result : Type) := Session ScopeAction ScopeReply Result

/-- Does one thing in the scope. -/
def acting (action : ScopeAction) : Acting (ScopeReply action) :=
  .act action .done

/-- Does work beside the scope. -/
def beside {Result : Type} (work : Work Result) : Acting Result :=
  work.carriedOut fun action => .act (.outside action) .done

/-- Starts or prepares a service and gives its account. -/
def starting (manager : Manager) (service : ScopedService) : Acting Json := do
  if service.isPreparedOnly then
    match ← beside (manager.prepare service.launch) with
    | .error error => return error.toJson
    | .ok process =>
      acting (.launch process)
      return ok (newestStage (← acting .look))
  else
    let started ← acting (.startService manager service.launch)
    return startAccount (← acting .look) started

/-- The body: it registers its steps, starts its services, and ends. -/
def bodyOf (manner : Manner) (steps : List TeardownStep)
    (services : List (Manager × ScopedService)) :
    Acting (Ending (Noted Json) (Noted String) (Noted String)) := do
  steps.forM fun step => acting (.defer step)
  match manner with
  | .panicsEarly => return .panicked ("closure panicked", [])
  | manner =>
    let accounts ← services.mapM fun (manager, service) => starting manager service
    beside (ask (.task "body"))
    return match manner with
    | .returns value => .returned (.ok (value, accounts))
    | .fails message => .returned (.error (message, accounts))
    | _ => .panicked ("body panicked", accounts)

/-- The account of the end of a run, and of its services. -/
def endingAccount : Ending (Noted Json) (ScopeError (Noted String)) (Noted String) → Noted Json
  | .returned (.ok (value, accounts)) => (ok value, accounts)
  | .returned (.error (.provisioning cause)) =>
    (failure "Provisioning" [("source", cause.toJson)], [])
  | .returned (.error (.body (message, accounts))) =>
    (failureText "Body" ((ScopeError.body message).message id), accounts)
  | .panicked (message, accounts) => (record [("panic", text message)], accounts)

/-- Installs services, the first with this number. -/
def installAll (settings : Settings) :
    Nat → List ScopedService → Run (List (Manager × ScopedService))
  | _, [] => return []
  | number, service :: rest => do
    let manager ← service.install settings number
    return (manager, service) :: (← installAll settings (number + 1) rest)

/-- Runs a body in a scope of its own. -/
def scopedRun (settings : Settings) (required : RequiredResources) (manner : Manner)
    (steps : List TeardownStep) (services : List ScopedService) : Run Json := do
  let installed ← installAll settings 0 services
  let ending ← perform (runScoped settings required (bodyOf manner steps installed))
  let (account, started) := endingAccount ending
  return record
    [("result", account), ("ran", ← takeTasks), ("services", .array started),
      ("seen", ← takeSeen), ("log", ← takeLog)]

end Testbed.Scenario
