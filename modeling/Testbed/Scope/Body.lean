/-
This file runs the body of a test inside a scope of its own. Whatever the body does with the scope,
and however it ends, the scope is finished before the end of the body is reported. What is reported
is the end of the body; teardown that fails is noted in the log and changes nothing about it.
-/

import Testbed.Scope

namespace Testbed

/-! ### What a body does -/

/-- What a body does with one of its processes. -/
inductive ProcessAction where
  | spawn
  | ensureRunning
  | waitUntilListening (policy : Policy)
  | stop

/-- What a body does with its scope. -/
inductive ScopeAction where
  /-- Prepare, register and spawn a service. -/
  | startService (manager : Manager) (launch : Launch)
  /-- Register a process. -/
  | launch (process : Process)
  /-- Register a teardown step. -/
  | defer (step : TeardownStep)
  | finish
  /-- Make sure that a topic exists. -/
  | ensureTopic (name : String)
  /-- Make sure that the data table exists. -/
  | ensureTable
  /-- Make sure that the series store answers. -/
  | ensureSeries
  /-- Wait until the broker accepts connections. -/
  | waitForBroker
  /-- Empty every store that is held. -/
  | reset
  | stopEnvironment
  /-- Do something with the process of a number, counted from zero. -/
  | withProcess (number : Nat) (use : ProcessAction)
  /-- Look at the scope. -/
  | look
  /-- Ask something of the world outside. -/
  | outside (action : Action)

/-- What a process answers. -/
abbrev ProcessReply : ProcessAction → Type
  | .spawn => Except LaunchError Unit
  | .ensureRunning => Except LaunchError Unit
  | .waitUntilListening _ => Except LaunchError String
  | .stop => Unit

/-- What each action of a body is answered with. -/
abbrev ScopeReply : ScopeAction → Type
  | .startService _ _ => Except LaunchError Unit
  | .launch _ => Unit
  | .defer _ => Unit
  | .finish => Unit
  | .ensureTopic _ => Except ProvisioningError TopicHandle
  | .ensureTable => Except ProvisioningError TableHandle
  | .ensureSeries => Except ProvisioningError SeriesHandle
  | .waitForBroker => Except ProvisioningError Unit
  | .reset => Except ProvisioningError Unit
  | .stopEnvironment => Unit
  | .withProcess _ use => Option (ProcessReply use)
  | .look => Scope
  | .outside action => Reply action

/-- How a body ends. -/
inductive Ending (Value Failure Payload : Type) where
  | returned (result : Except Failure Value)
  /-- The body panicked. -/
  | panicked (payload : Payload)

/-- The body of a test. -/
abbrev Body (Value Failure Payload : Type) :=
  Session ScopeAction ScopeReply (Ending Value Failure Payload)

/-! ### Carrying a body out -/

namespace Process

/-- Does something with a process. -/
def perform (process : Process) : (use : ProcessAction) → Work (ProcessReply use × Process)
  | .spawn => process.spawn
  | .ensureRunning => process.ensureRunning
  | .waitUntilListening policy => process.waitUntilListening policy
  | .stop => do
    let stopped ← process.stop
    return ((), stopped)

end Process

namespace Scope

/-- Does something with the process of a number, if there is one. -/
def performOn (scope : Scope) (number : Nat) (use : ProcessAction) :
    Work (Option (ProcessReply use) × Scope) :=
  match scope.processes[number]? with
  | none => return (none, scope)
  | some process => do
    let (reply, process) ← process.perform use
    return (some reply, { scope with processes := scope.processes.set number process })

/-- Does something with the environment of a scope. -/
def inEnvironment {Answer : Type} (scope : Scope)
    (use : Environment → Work (Answer × Environment)) : Work (Answer × Scope) := do
  let (answer, environment) ← use scope.environment
  return (answer, { scope with environment })

/-- Carries out what a body does with its scope. -/
def perform : (action : ScopeAction) → Scope → Work (ScopeReply action × Scope)
  | .startService manager launch, scope => scope.startService manager launch
  | .launch process, scope => return ((), scope.launch process)
  | .defer step, scope => return ((), scope.defer step)
  | .finish, scope => do
    let finished ← scope.finish
    return ((), finished)
  | .ensureTopic name, scope => scope.inEnvironment fun environment => environment.ensureTopic name
  | .ensureTable, scope => scope.inEnvironment Environment.ensureTable
  | .ensureSeries, scope => scope.inEnvironment Environment.ensureSeries
  | .waitForBroker, scope => do
    let ready ← scope.environment.waitForBroker
    return (ready, scope)
  | .reset, scope => do
    let emptied ← scope.environment.reset
    return (emptied, scope)
  | .stopEnvironment, scope => scope.inEnvironment fun environment => do
    let stopped ← environment.stop
    return ((), stopped)
  | .withProcess number use, scope => scope.performOn number use
  | .look, scope => return (scope, scope)
  | .outside action, scope => do
    let reply ← ask action
    return (reply, scope)

end Scope

/-- Carries a body out in a scope. Gives the end of the body and the scope as the body leaves it. -/
def Body.runIn {Value Failure Payload : Type} (body : Body Value Failure Payload) (scope : Scope) :
    Work (Ending Value Failure Payload × Scope) :=
  body.threaded Scope.perform scope

/-! ### Scoped runs -/

/-- Why a scoped run has no value. -/
inductive ScopeError (Failure : Type) where
  /-- What the test requires is not there, and the body did not run. -/
  | provisioning (cause : ProvisioningError)
  | body (cause : Failure)

/-- The words for a failed run. -/
def ScopeError.message {Failure : Type} (describe : Failure → String) :
    ScopeError Failure → String
  | provisioning cause => "Environment provisioning failed: " ++ cause.message
  | body cause => "Test body failed: " ++ describe cause

/-- The end of a body as the end of its run. -/
def Ending.ofBody {Value Failure Payload : Type} :
    Ending Value Failure Payload → Ending Value (ScopeError Failure) Payload
  | returned (.ok value) => returned (.ok value)
  | returned (.error cause) => returned (.error (.body cause))
  | panicked payload => panicked payload

/-- Runs a body in a scope of its own. The scope is finished however the body ends. -/
def runScoped {Value Failure Payload : Type} (settings : Settings) (required : RequiredResources)
    (body : Body Value Failure Payload) : Work (Ending Value (ScopeError Failure) Payload) := do
  match ← Scope.start settings required with
  | .error error => return .returned (.error (.provisioning error))
  | .ok scope =>
    let (ending, scope) ← body.runIn scope
    let finished ← scope.finish
    finished.drop
    return ending.ofBody

end Testbed
