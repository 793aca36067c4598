/-
This file follows steps of a scenario about the processes of services.
-/

import Testbed.Scenario.Faults
import Testbed.Scenario.Launches
import Testbed.Scenario.Policies
import Testbed.Scenario.Run
import Testbed.Service.Manager

namespace Testbed.Scenario

open Decode Encode Rehearsal

/-! ### Executables -/

/-- What stands at the path of an executable, if anything does. -/
structure Installation where
  executable : Option Executable

def Installation.ofJson? : Decode Installation := fun input => do
  match ← required string input "run" with
  | "sleep" => return ⟨some (.program .waits)⟩
  | "dump" => return ⟨some (.program .waits)⟩
  | "exit" => return ⟨some (.program (.exits (← required (natUpTo 255) input "code")))⟩
  | "signal" => return ⟨some (.program (.signalsItself (← required (natUpTo 64) input "signal")))⟩
  | "missing" => return ⟨none⟩
  | "not_executable" => return ⟨some .notExecutable⟩
  | "directory" => return ⟨some .notExecutable⟩
  | _ => none

/-- Puts an executable into a directory of the machine and gives its path. -/
def Installation.install (installation : Installation) (directory : String) : Run String :=
  fun machine =>
    match installation.executable with
    | none => some (directory ++ "/absent/service", machine)
    | some executable =>
      let path := directory ++ "/service"
      some (path, { machine with executables := (path, executable) :: machine.executables })

/-! ### Accounts of processes -/

/-- A text without the number of a process. -/
def withoutNumber (process : Process) (shown : String) : String :=
  match process.pid? with
  | none => shown
  | some number =>
    ("pid: Some(" ++ processMark ++ ")").intercalate
      (shown.splitOn ("pid: Some(" ++ toString number ++ ")"))

/-- What a process tells of itself. -/
def processJson (process : Process) : Json :=
  record
    [("role", text process.role.executableName), ("executable", text process.path),
      ("environment", pairs process.bindings.entries), ("args", texts process.arguments),
      ("rpc_address", nullable (fun port => text (Process.localAddress port)) process.port)]

/-- Whether a shell hands a variable on: its name, which ends at the first equals sign, has letters,
digits and low lines, and no digit comes first. -/
def isHandedOn (binding : String) : Bool :=
  let name := binding.toList.takeWhile (· ≠ '=')
  name.head?.any (!·.isDigit) && name.all fun character => character.isAlphanum || character = '_'

/-- What the last child saw of its arguments and variables. -/
def takeChild : Run Json := fun machine =>
  let seen := machine.children.getLast?.map fun child =>
    let bindings := (child.command.bindings.map fun (key, value) => key ++ "=" ++ value).filter
      isHandedOn
    record
      [("args", texts child.command.arguments),
        ("env", texts (bindings.mergeSort fun first second => first ≤ second))]
  some (seen.getD .null, machine)

/-! ### Steps -/

/-- How often a scenario asks for the end of a process. -/
def patience : Nat := 1000

/-- Asks whether a process runs until it does not, so many times at most. -/
def awaitEnd : Nat → Process → Run (Json × Process)
  | 0, process => return (done, process)
  | more + 1, process => do
    let (running, process) ← perform process.ensureRunning
    match running with
    | .error error => return (error.toJson, process)
    | .ok () =>
      perform (ask (.sleep (.ofMilliseconds 10)))
      awaitEnd more process

/-- Follows a step about a process. -/
def followProcess (process : Process) (step : List Json) : Run (Json × Process) := do
  let unit := outcome LaunchError.toJson
  match step with
  | [.string "spawn"] =>
    let (spawned, process) ← perform process.spawn
    return (unit spawned, process)
  | [.string "stop"] =>
    let process ← perform process.stop
    return (.null, process)
  | [.string "ensure_running"] =>
    let (running, process) ← perform process.ensureRunning
    return (unit running, process)
  | [.string "await_exit"] => awaitEnd patience process
  | [.string "wait_until_listening", policy] =>
    let policy ← read (Policy.ofJson? policy)
    let (waited, process) ← perform (process.waitUntilListening policy)
    return (result LaunchError.toJson text waited, process)
  | [.string "info"] => return (processJson process, process)
  | [.string "child"] => return (← takeChild, process)
  | [.string "debug"] => return (text (withoutNumber process process.inspect), process)
  | _ => refuse

/-- Follows steps about a process, which is left behind after them or where a step says so. -/
def followLife : List Json → Process → Run (List Json)
  | [], process => do
    perform process.drop
    return []
  | step :: rest, process => do
    match ← read (list step) with
    | [.string "drop"] =>
      perform process.drop
      return [record [("r", .null), ("log", ← takeLog)]]
    | step =>
      let (reply, process) ← followProcess process step
      let account := record
        [("r", reply), ("state", text process.stage.name), ("has_pid", .bool process.pid?.isSome),
          ("log", ← takeLog)]
      return account :: (← followLife rest process)

/-- Prepares or starts a launch and follows steps about its process. -/
def followLaunch (settings : Settings) (launch : Launch) (installation : Installation)
    (isStarted : Bool) (steps : List Json) : Run Json := do
  let path ← installation.install "<tmp>"
  let manager := (Manager.mk settings).withExecutable launch.role path
  let prepared ← perform (if isStarted then manager.start launch else manager.prepare launch)
  match prepared with
  | .error error => return record [("prepare", error.toJson), ("log", ← takeLog)]
  | .ok process =>
    return record [("prepare", done), ("steps", .array (← followLife steps process))]

end Testbed.Scenario
