/-
This file defines service processes and their life. A process is created with a command, runs as a
child once it is spawned, and is stopped for good. A child that is left behind is killed, and one
whose end was seen gets no signal any more.
-/

import Testbed.Poll.Work

namespace Testbed

open Outside Text

/-- A child process. -/
structure Child where
  id : Nat
  /-- How the child ended, once that was seen. -/
  ending : Option ExitStatus := none
  deriving DecidableEq, Repr

namespace Child

/-- Asks whether a child has ended. An end that was seen is not asked for again. -/
def observe (child : Child) : Work (Except String (Option ExitStatus) × Child) :=
  match child.ending with
  | some status => return (.ok (some status), child)
  | none => do
    match ← ask (.childStatus child.id) with
    | .ok (some status) => return (.ok (some status), { child with ending := some status })
    | answer => return (answer, child)

/-- Kills a child whose end was not seen. -/
def kill (child : Child) : Work (Except String Unit) :=
  match child.ending with
  | some _ => return .error "invalid argument: can't kill an exited process"
  | none => ask (.kill child.id)

/-- Leaves a child behind, which is killed unless its end was seen or it got the signal. -/
def release (child : Child) (isSignalled : Bool) : Work Unit :=
  if isSignalled || child.ending.isSome then return ()
  else do
    let _ ← ask (.kill child.id)
    return ()

end Child

/-- The phases of the life of a process. -/
inductive Phase where
  /-- Not spawned yet. -/
  | created
  | running
  /-- Stopped for good. -/
  | stopped
  deriving DecidableEq, Repr

/-- The name of a phase. -/
def Phase.name : Phase → String
  | created => "Created"
  | running => "Running"
  | stopped => "Stopped"

/-- Where a process stands in its life. -/
structure Stage where
  phase : Phase
  /-- What is left to spawn. -/
  command : Option Command
  child : Option Child
  deriving DecidableEq, Repr

namespace Stage

/-- Not spawned yet. -/
def created (command : Command) : Stage where
  phase := .created
  command := some command
  child := none

def running (child : Child) : Stage where
  phase := .running
  command := none
  child := some child

/-- Stopped for good. -/
def stopped : Stage where
  phase := .stopped
  command := none
  child := none

def name (stage : Stage) : String :=
  stage.phase.name

end Stage

/-- A process of a service. -/
structure Process where
  role : Role
  path : String
  bindings : Variables
  arguments : List String
  port : Option UInt16
  stage : Stage

namespace Process

/-- The identifier of the child, as long as its end was not seen. -/
def pid? (process : Process) : Option Nat :=
  process.stage.child.bind fun child => if child.ending.isNone then some child.id else none

/-- The address of the port on this machine. -/
def localAddress (port : UInt16) : String :=
  "127.0.0.1:" ++ portText port

/-- The field for the role. -/
def roleField (process : Process) : String × FieldValue :=
  ("role", .text process.role.executableName)

/-- Notes an event in the life of a process. -/
def noteProcess (process : Process) (level : Level) (message : String)
    (fields : List (String × FieldValue)) : Work Unit :=
  note level "lake.process" message (process.roleField :: fields)

/-- The arguments as they are shown. -/
def inspectArguments (arguments : List String) : String :=
  inspectList (arguments.map quoted)

/-- Hands out the command of a process that is created, and spawns it. A process that can not be
spawned is stopped. -/
def spawnCreated (process : Process) : Work (Except LaunchError Unit × Process) :=
  match process.stage.command with
  | none =>
    return (.error (.alreadyStopped process.role),
      { process with stage := { process.stage with phase := .stopped } })
  | some command => do
    match ← ask (.spawn command) with
    | .ok id =>
      process.noteProcess .info "Service started"
        [("pid", .text (inspectOption (some (toString id)))),
          ("args", .text (inspectArguments process.arguments))]
      return (.ok (), { process with stage :=
        { phase := .running, command := none, child := some { id } } })
    | .error cause =>
      return (.error (.spawn process.role process.path cause),
        { process with stage := { process.stage with phase := .stopped, command := none } })

/-- Spawns a process that is created; one that runs already is left as it is. -/
def spawn (process : Process) : Work (Except LaunchError Unit × Process) :=
  match process.stage.phase with
  | .running => return (.ok (), process)
  | .stopped => return (.error (.alreadyStopped process.role), process)
  | .created => process.spawnCreated

/-- Fails if the process was stopped or its child has ended by itself. -/
def ensureRunning (process : Process) : Work (Except LaunchError Unit × Process) :=
  match process.stage.phase, process.stage.child with
  | .running, some child => do
    let (answer, child) ← child.observe
    let observed := { process with stage := { process.stage with child := some child } }
    match answer with
    | .ok none => return (.ok (), observed)
    | .ok (some status) => return (.error (.exited process.role status), observed)
    | .error cause => return (.error (.unknownStatus process.role cause), observed)
  | .stopped, _ => return (.error (.alreadyStopped process.role), process)
  | _, _ => return (.ok (), process)

/-- Tries once to connect to an address. -/
def tryConnect (address : String) : Work (Except String Unit) := do
  match ← ask (.connect address none) with
  | .open => return .ok ()
  | .failed cause => return .error cause
  | .timedOut => return .error "connection timed out"

/-- Waits until the port accepts connections. If it never does and the child has ended, its end is
reported. -/
def waitUntilListening (process : Process) (policy : Policy) :
    Work (Except LaunchError String × Process) :=
  match process.port with
  | none => return (.error (.noPort process.role), process)
  | some port => do
    let address := localAddress port
    let outcome ← Poll.retrieve id (tryConnect address) policy
    if outcome.isSatisfied then
      process.noteProcess .debug "Service listening" [("addr", .text address)]
      return (.ok address, process)
    else
      let (running, process) ← process.ensureRunning
      match running with
      | .error error => return (.error error, process)
      | .ok () => return (.error (.notListening process.role address outcome.attempts), process)

/-- The time that a killed child has to end. -/
def stopLimit : Duration := .ofSeconds 10

/-- Kills a child, and tells whether it got the signal. -/
def signalChild (process : Process) (child : Child) : Work Bool := do
  match ← child.kill with
  | .ok () => return true
  | .error cause =>
    process.noteProcess .warn "Failed to signal service" [("error", .text cause)]
    return false

/-- Waits for the end of a child that was to be killed. If it is not seen, the child is left
behind. -/
def reapChild (process : Process) (child : Child) (isSignalled : Bool) : Work Unit := do
  match ← ask (.reap child.id stopLimit) with
  | .exited status =>
    process.noteProcess .info "Service stopped" [("status", .text status.message)]
  | .failed cause =>
    process.noteProcess .warn "Failed to reap service" [("error", .text cause)]
    child.release isSignalled
  | .timedOut =>
    process.noteProcess .warn "Service did not exit after kill"
      [("timeout_secs", .number stopLimit.seconds)]
    child.release isSignalled

/-- Stops a running child: kills it unless it has ended, and waits for its end. -/
def stopChild (process : Process) (child : Child) : Work Unit := do
  let (answer, child) ← child.observe
  match answer with
  | .ok (some status) =>
    process.noteProcess .warn "Service had already exited" [("status", .text status.message)]
  | _ =>
    let isSignalled ← process.signalChild child
    process.reapChild child isSignalled

/-- Stops the child, if there is one. -/
def stopAnyChild (process : Process) : Work Unit :=
  match process.stage.child with
  | none => process.noteProcess .debug "Stopped before spawn" []
  | some child => process.stopChild child

/-- Stops a process for good. Problems are noted and not reported. -/
def stop (process : Process) : Work Process :=
  if process.stage.phase = .stopped then return process
  else do
    process.stopAnyChild
    return { process with stage := .stopped }

/-- Leaves a process behind. A child that was never stopped is killed. -/
def drop (process : Process) : Work Unit :=
  match process.stage.child with
  | none => return ()
  | some child => do
    process.noteProcess .warn "Service dropped without stop(), killing" []
    let signalled ← child.kill
    child.release signalled.isOk

def inspect (process : Process) : String :=
  inspectRecord "ServiceProcess"
    [("role", process.role.inspect), ("path", quoted process.path),
      ("state", process.stage.name),
      ("pid", inspectOption (process.pid?.map toString)),
      ("args", inspectArguments process.arguments), ("env", process.bindings.inspect)]

end Process

end Testbed
