/-
This file defines descriptions of launches and how one becomes a plan: the variables, the arguments
and the port of a service. The backend is checked before anything is rendered. Every name that the
fragments, the storage and the settings give is set once, or the launch is refused.
-/

import Testbed.Service.Role

namespace Testbed

/-- A description of a launch. -/
structure Launch where
  role : Role
  /-- The store that the service persists into. -/
  storage : Option Storage := none
  /-- Whether the name of the store's plugin is the argument of the service. -/
  plugsIn : Bool := false
  /-- The fragments, without that of the store. -/
  fragments : List Fragment
  /-- The settings outside all sections. -/
  settings : List (String × String) := []
  /-- The local port on which the service accepts requests. -/
  port : Option UInt16 := none

/-- What a service is started with. -/
structure Plan where
  role : Role
  bindings : Variables
  arguments : List String
  port : Option UInt16

/-- How a process ended. -/
inductive ExitStatus where
  /-- It exited with a code. -/
  | code (number : Nat)
  /-- A signal ended it. -/
  | signal (number : Nat) (dumped : Bool)
  deriving DecidableEq, Repr

/-- The names of the signals. -/
def signalNames : List (Nat × String) :=
  [(1, "SIGHUP"), (2, "SIGINT"), (3, "SIGQUIT"), (4, "SIGILL"), (5, "SIGTRAP"), (6, "SIGABRT"),
    (7, "SIGBUS"), (8, "SIGFPE"), (9, "SIGKILL"), (10, "SIGUSR1"), (11, "SIGSEGV"),
    (12, "SIGUSR2"), (13, "SIGPIPE"), (14, "SIGALRM"), (15, "SIGTERM"), (16, "SIGSTKFLT"),
    (17, "SIGCHLD"), (18, "SIGCONT"), (19, "SIGSTOP"), (20, "SIGTSTP"), (21, "SIGTTIN"),
    (22, "SIGTTOU"), (23, "SIGURG"), (24, "SIGXCPU"), (25, "SIGXFSZ"), (26, "SIGVTALRM"),
    (27, "SIGPROF"), (28, "SIGWINCH"), (29, "SIGIO"), (30, "SIGPWR"), (31, "SIGSYS")]

/-- The words for the end of a process. -/
def ExitStatus.message : ExitStatus → String
  | code number => "exit status: " ++ toString number
  | signal number dumped =>
    "signal: " ++ toString number
      ++ (match signalNames.lookup number with
        | some name => " (" ++ name ++ ")"
        | none => "")
      ++ (if dumped then " (core dumped)" else "")

/-- Why a service is not launched, or not running. -/
inductive LaunchError where
  | unsupportedBackend (role : Role) (backend : Backend)
  | duplicateKey (role : Role) (key : String)
  /-- The variables can not be rendered. -/
  | invalidVariables (role : Role) (cause : VariableError)
  /-- The operating system did not start the executable. -/
  | spawn (role : Role) (path : String) (cause : String)
  | alreadyStopped (role : Role)
  /-- The process ended by itself. -/
  | exited (role : Role) (ending : ExitStatus)
  /-- The operating system did not tell whether the process runs. -/
  | unknownStatus (role : Role) (cause : String)
  | noPort (role : Role)
  | notListening (role : Role) (address : String) (attempts : UInt32)

/-- The words for a launch error. -/
def LaunchError.message : LaunchError → String
  | unsupportedBackend role backend =>
    role.executableName ++ " does not support the " ++ backend.pluginName ++ " storage backend"
  | duplicateKey role key =>
    "Launch environment for " ++ role.executableName ++ " sets " ++ key ++ " twice"
  | invalidVariables role cause =>
    "Invalid launch environment for " ++ role.executableName ++ ": " ++ cause.message
  | spawn role path cause =>
    "Failed to spawn " ++ role.executableName ++ " from " ++ path ++ ": " ++ cause
  | alreadyStopped role => role.executableName ++ " has already been stopped"
  | exited role ending =>
    role.executableName ++ " exited unexpectedly with " ++ ending.message
  | unknownStatus role cause => "Failed to query " ++ role.executableName ++ " status: " ++ cause
  | noPort role => role.executableName ++ " has no RPC port configured"
  | notListening role address attempts =>
    role.executableName ++ " not listening on " ++ address ++ " after "
      ++ toString attempts.toNat ++ " attempts"

/-- A refusal of variables as a launch error. -/
def LaunchError.ofVariableError (role : Role) : VariableError → LaunchError
  | .duplicate key => .duplicateKey role key
  | .invalidStem stem => .invalidVariables role (.invalidStem stem)

namespace Launch

/-- Adds fragments to variables, one after another. -/
def mergeFragments (stem : String) : List Fragment → Variables → Except VariableError Variables
  | [], bindings => .ok bindings
  | fragment :: rest, bindings =>
    match fragment.render stem with
    | .error error => .error error
    | .ok rendered =>
      match bindings.merge rendered with
      | .error error => .error error
      | .ok bindings => mergeFragments stem rest bindings

/-- The fragments of a launch with that of its store behind them. -/
def allFragments (launch : Launch) : List Fragment :=
  launch.fragments ++ (launch.storage.map Storage.fragment).toList

/-- The variables of a launch. -/
def bindings (launch : Launch) : Except VariableError Variables :=
  match mergeFragments launch.role.stem launch.allFragments .empty with
  | .error error => .error error
  | .ok bindings =>
    Variables.insertAll
      (launch.settings.map fun setting => (settingName launch.role.stem setting.1, setting.2))
      bindings

/-- The arguments of a launch. -/
def arguments (launch : Launch) : List String :=
  match launch.storage with
  | some storage => if launch.plugsIn then [storage.backend.pluginName] else []
  | none => []

/-- The plan of a launch whose backend is supported. -/
def renderSupported (launch : Launch) : Except LaunchError Plan :=
  match launch.bindings with
  | .error error => .error (.ofVariableError launch.role error)
  | .ok bindings =>
    .ok { role := launch.role, bindings, arguments := launch.arguments, port := launch.port }

/-- The plan of a launch. -/
def render (launch : Launch) : Except LaunchError Plan :=
  match launch.storage with
  | none => launch.renderSupported
  | some storage =>
    if storage.backend ∈ launch.role.backends then launch.renderSupported
    else .error (.unsupportedBackend launch.role storage.backend)

end Launch

end Testbed
