/-
This file defines machines on which work is rehearsed. A machine runs children and the compose
program and has files, but no network: every connection fails, and no broker ever answers. What the
work did is recorded, so that it can be compared with what was expected.
-/

import Testbed.Outside
import Testbed.Rehearsal.Files
import Testbed.Rehearsal.Network

namespace Testbed.Rehearsal

open Outside Text

/-- What a program does once it runs. -/
inductive Program where
  /-- It waits to be killed. -/
  | waits
  /-- It exits with a code, as soon as any time has passed. -/
  | exits (code : Nat)
  /-- It ends itself by a signal, as soon as any time has passed. -/
  | signalsItself (signal : Nat)
  deriving DecidableEq, Repr

/-- The signals that do not end a program: it comes to its end by itself. -/
def harmlessSignals : List Nat := [0, 17, 18, 23, 28]

/-- What stands at the path of an executable. -/
inductive Executable where
  | program (program : Program)
  /-- Something that the system does not execute. -/
  | notExecutable
  deriving DecidableEq, Repr

/-- A child that was started. -/
structure RunningChild where
  command : Command
  program : Program
  startedAt : Nat
  isKilled : Bool := false

/-- How a child has ended by now. -/
def RunningChild.ending? (child : RunningChild) (now : Nat) : Option ExitStatus :=
  if child.isKilled then some (.signal 9 false)
  else if child.startedAt < now then
    match child.program with
    | .waits => none
    | .exits code => some (.code code)
    | .signalsItself signal =>
      some (if harmlessSignals.contains signal then .code 0 else .signal signal false)
  else none

/-- The compose program: it fails where one of its arguments is a certain word. -/
structure ComposeProgram where
  failsOn : Option String := none
  exitCode : Nat := 1
  complaint : List UInt8 := []

/-- A machine without network, with a record of what was done on it, the latest first. -/
structure Machine where
  executables : List (String × Executable) := []
  composeProgram : Option ComposeProgram := none
  files : FileTree := {}
  /-- The pauses so far. -/
  now : Nat := 0
  /-- The children in the order in which they were started. -/
  children : List RunningChild := []
  events : List Event := []
  /-- The arguments of each run of the compose program. -/
  composeRuns : List (List String) := []
  tasks : List String := []

namespace Machine

/-! ### The network that is not there -/

/-- The words for a network that is not there. -/
def unreachable : String := ConnectFault.unreachable.message

/-- The greatest timeout of a record in milliseconds. -/
def greatestMessageTimeout : Nat := 0x7FFFFFFF

/-- The words for what a client without a broker gets. -/
def noBroker : String := "Local: Broker transport failure"

/-! ### Records -/

/-- The most bytes of the name of a topic that a record is published to. -/
def topicLimit : Nat := 512

/-- Why records cannot be published to a topic, if they cannot. -/
def topicFault? (topic : String) : Option String :=
  if topicLimit < topic.utf8ByteSize then
    some "Message production error: InvalidArgument (Local: Invalid argument or configuration)"
  else none

/-- What becomes of a record that is published: no broker acknowledges it. -/
def deliver (record : OutgoingRecord) : Delivery :=
  match topicFault? record.topic with
  | some fault => .refused fault
  | none => .unanswered

/-- Takes a record that is to be published later. -/
def take (record : OutgoingRecord) : Except String Nat :=
  match topicFault? record.topic with
  | some fault => .error fault
  | none => .ok 0

/-! ### Children -/

/-- The most bytes of a text that is handed to a child. -/
def handoverLimit : Nat := 131071

/-- Why texts cannot be handed to a child, if they cannot. -/
def handoverFault? (texts : List String) : Option String :=
  if texts.any (·.toList.contains '\x00') then some "nul byte found in provided data"
  else if texts.any (handoverLimit < ·.utf8ByteSize) then
    some "Argument list too long (os error 7)"
  else none

/-- The arguments and variables of a child, as they are handed to it. -/
def handedOver (command : Command) : List String :=
  command.arguments ++ command.bindings.map fun entry => entry.1 ++ "=" ++ entry.2

/-- Starts a child. -/
def spawn (machine : Machine) (command : Command) : Except String Nat × Machine :=
  match handoverFault? (handedOver command), machine.executables.lookup command.path with
  | some fault, _ => (.error fault, machine)
  | none, none => (.error FileFault.missing.message, machine)
  | none, some .notExecutable => (.error "Permission denied (os error 13)", machine)
  | none, some (.program program) =>
    let child : RunningChild := { command, program, startedAt := machine.now }
    (.ok machine.children.length, { machine with children := machine.children ++ [child] })

/-- The words for a child that does not exist. -/
def noSuchChild : String := "No such process (os error 3)"

/-- Tells whether a child has ended. -/
def childStatus (machine : Machine) (child : Nat) : Except String (Option ExitStatus) :=
  match machine.children[child]? with
  | none => .error noSuchChild
  | some running => .ok (running.ending? machine.now)

/-- Kills a child, unless it has ended. -/
def kill (machine : Machine) (child : Nat) : Except String Unit × Machine :=
  match machine.children[child]? with
  | none => (.error noSuchChild, machine)
  | some running =>
    if (running.ending? machine.now).isSome then (.ok (), machine)
    else
      (.ok (),
        { machine with children := machine.children.set child { running with isKilled := true } })

/-- Waits for the end of a child. -/
def reap (machine : Machine) (child : Nat) : Reaped × Machine :=
  match machine.children[child]? with
  | none => (.failed noSuchChild, machine)
  | some running =>
    let later := { machine with now := machine.now + 1 }
    match running.ending? later.now with
    | some status => (.exited status, later)
    | none => (.timedOut, later)

/-! ### The compose program -/

/-- Runs the compose program. -/
def compose (machine : Machine) (arguments : List String) :
    Except String (ExitStatus × List UInt8) × Machine :=
  match handoverFault? arguments, machine.composeProgram with
  | some fault, _ => (.error fault, machine)
  | none, none => (.error FileFault.missing.message, machine)
  | none, some program =>
    let result := if program.failsOn.any arguments.contains then
        (.code program.exitCode, program.complaint)
      else (.code 0, [])
    (.ok result, { machine with composeRuns := arguments :: machine.composeRuns })

/-! ### Answers -/

/-- The answer of a machine to an action, and the machine after it. -/
def answer : (action : Action) → Machine → Reply action × Machine
  | .note event, machine => ((), { machine with events := event :: machine.events })
  | .sleep _, machine => ((), { machine with now := machine.now + 1 })
  | .connect address _, machine => (.failed (ConnectFault.ofText address).message, machine)
  | .openClient _, machine => (.ok (), machine)
  | .request request, machine =>
    (.error { stage := .connect, url := some request.url.text }, machine)
  | .openChannel _, machine => (.error "transport error", machine)
  | .awaitChannel _, machine => (.error "transport error", machine)
  | .call _ _ _, machine => (.error { code := 14, message := "transport error" }, machine)
  | .openPool _, machine => (.error (.connection unreachable), machine)
  | .perform _ _ _, machine => (.error (.connection unreachable), machine)
  | .begin _, machine => (.error (.connection unreachable), machine)
  | .commit _, machine => (.error (.connection unreachable), machine)
  | .abandon _, machine => ((), machine)
  | .closePool _, machine => ((), machine)
  | .openAdmin _, machine => (.ok 0, machine)
  | .createTopic _ _, machine => (.error noBroker, machine)
  | .deleteTopic _ _, machine => (.error noBroker, machine)
  | .describeTopic _ _, machine => (.clientFailed noBroker, machine)
  | .openProducer settings, machine =>
    (if settings.messageTimeout ≤ greatestMessageTimeout then .ok 0
      else .error "Invalid configuration value", machine)
  | .publish _ record _, machine => (deliver record, machine)
  | .submit _ record, machine => (take record, machine)
  | .deadline _, machine => (0, machine)
  | .settle _ _, machine => (.unanswered, machine)
  | .spawn command, machine => machine.spawn command
  | .childStatus child, machine => (machine.childStatus child, machine)
  | .kill child, machine => machine.kill child
  | .reap child _, machine => machine.reap child
  | .compose arguments, machine => machine.compose arguments
  | .readFile path, machine =>
    ((machine.files.read path).mapError FileFault.message, machine)
  | .task name, machine => ((), { machine with tasks := name :: machine.tasks })

/-- The result of work on a machine, and the machine after it. -/
def rehearse {Result : Type} (machine : Machine) (work : Work Result) : Result × Machine :=
  work.run answer machine

/-- The events so far, the earliest first, and the machine without them. -/
def takeEvents (machine : Machine) : List Event × Machine :=
  (machine.events.reverse, { machine with events := [] })

/-- The runs of the compose program so far, the earliest first, and the machine without them. -/
def takeComposeRuns (machine : Machine) : List (List String) × Machine :=
  (machine.composeRuns.reverse, { machine with composeRuns := [] })

/-- The tasks that were run so far, the earliest first, and the machine without them. -/
def takeTasks (machine : Machine) : List String × Machine :=
  (machine.tasks.reverse, { machine with tasks := [] })

end Machine

end Testbed.Rehearsal
