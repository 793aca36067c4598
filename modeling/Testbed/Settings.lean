/-
This file defines the settings of a test run and reads them from environment variables. Every
setting has a value that holds where its variable is missing. Four of the variables hold numbers;
the first of them that is no number of its range is reported with its text.
-/

import Testbed.Service.Role
import Testbed.Poll.Policy
import Testbed.Text.Numeral

namespace Testbed

open Text

/-- A variable whose text is refused. -/
structure SettingsError where
  variableName : String
  value : String
  reason : String
  deriving DecidableEq, Repr

/-- The words for a refused variable. -/
def SettingsError.message (error : SettingsError) : String :=
  "Invalid value " ++ quoted error.value ++ " for " ++ error.variableName ++ ": " ++ error.reason

/-- The settings of a test run. -/
structure Settings where
  brokers : String := "localhost:9092"
  relational : RelationalAccess := {}
  seriesUrl : String := "http://127.0.0.1:8428"
  /-- The executables that are chosen for roles. -/
  executables : Role → Option String := fun _ => none
  /-- The compose file that is started before and stopped after each environment. -/
  composeFile : Option String := none
  composeProject : String := "cdl-tests"
  /-- The directory of the cases; none for the cases that come with the library. -/
  fixturesDirectory : Option String := none
  /-- The budget of every check that something is ready. -/
  readiness : Policy := .ofAttempts 30 (.fixed (.ofMilliseconds 1000))
  /-- The time a broker has to acknowledge a record. -/
  publishTimeout : Duration := .ofMilliseconds 3000
  logFilter : Option String := none
  /-- The variables that every service gets besides its own. -/
  passedThrough : List (String × String) := []

namespace Settings

/-- The variables that are handed to every service. -/
def passedThroughNames : List String := ["PATH", "HOME", "RUST_LOG"]

/-- Reads a number up to the greatest of its range from a variable. -/
def number (bindings : Variables) (greatest : Nat) (name : String) (otherwise : Nat) :
    Except SettingsError Nat :=
  match bindings.get? name with
  | none => .ok otherwise
  | some text =>
    match numeral greatest text with
    | .ok value => .ok value
    | .error error => .error { variableName := name, value := text, reason := error.message }

/-- The numbers among the variables. -/
structure Numbers where
  relationalPort : UInt16
  readinessAttempts : UInt32
  readinessDelay : UInt64
  publishTimeout : UInt64

/-- Reads the numbers, in the order in which their errors count. -/
def numbers (bindings : Variables) : Except SettingsError Numbers := do
  let relationalPort ← number bindings 0xFFFF "POSTGRES_PORT" 5432
  let readinessAttempts ← number bindings 0xFFFFFFFF "HARNESS_READINESS_ATTEMPTS" 30
  if readinessAttempts = 0 then
    .error
      { variableName := "HARNESS_READINESS_ATTEMPTS", value := "0", reason := "must be at least 1" }
  else
    let readinessDelay ← number bindings 0xFFFFFFFFFFFFFFFF "HARNESS_READINESS_DELAY_MS" 1000
    let publishTimeout ← number bindings 0xFFFFFFFFFFFFFFFF "HARNESS_PUBLISH_TIMEOUT_MS" 3000
    .ok
      { relationalPort := UInt16.ofNat relationalPort
        readinessAttempts := UInt32.ofNat readinessAttempts
        readinessDelay := UInt64.ofNat readinessDelay
        publishTimeout := UInt64.ofNat publishTimeout }

/-- The variable that chooses the executable of a role. -/
def executableVariable (role : Role) : String :=
  role.stem ++ "_EXE"

/-- The settings from variables whose numbers were read. -/
def ofNumbers (bindings : Variables) (numbers : Numbers) : Settings :=
  let text (name otherwise : String) : String := (bindings.get? name).getD otherwise
  let plain : RelationalAccess := {}
  { brokers := text "KAFKA_BROKERS" "localhost:9092"
    relational :=
      { host := text "POSTGRES_HOST" plain.host
        port := numbers.relationalPort
        username := text "POSTGRES_USERNAME" plain.username
        password := ⟨text "POSTGRES_PASSWORD" plain.password.exposed⟩
        database := text "POSTGRES_DBNAME" plain.database
        schema := text "POSTGRES_SCHEMA" plain.schema }
    seriesUrl := text "VICTORIA_METRICS_URL" "http://127.0.0.1:8428"
    executables := fun role => bindings.get? (executableVariable role)
    composeFile := bindings.get? "HARNESS_COMPOSE_FILE"
    composeProject := text "HARNESS_COMPOSE_PROJECT" "cdl-tests"
    fixturesDirectory := bindings.get? "HARNESS_FIXTURES_DIR"
    readiness := .ofAttempts numbers.readinessAttempts
      (.fixed (.ofMilliseconds numbers.readinessDelay))
    publishTimeout := .ofMilliseconds numbers.publishTimeout
    logFilter := bindings.get? "RUST_LOG"
    passedThrough :=
      passedThroughNames.filterMap fun name => (bindings.get? name).map fun value => (name, value) }

/-- The settings from variables. -/
def ofVariables (bindings : Variables) : Except SettingsError Settings :=
  match numbers bindings with
  | .error error => .error error
  | .ok numbers => .ok (ofNumbers bindings numbers)

/-- The executable of a role: the one chosen for it, or else the one of its name. -/
def executable (settings : Settings) (role : Role) : String :=
  (settings.executables role).getD role.executableName

/-- The settings with an executable chosen for a role. -/
def withExecutable (settings : Settings) (role : Role) (path : String) : Settings :=
  { settings with
    executables := fun other => if other = role then some path else settings.executables other }

/-- The input from a topic on the brokers of the run. -/
def eventInput (settings : Settings) (topic : String) : EventInput where
  brokers := settings.brokers
  topic

/-- The series store of the run. -/
def seriesAccess (settings : Settings) : SeriesAccess where
  url := settings.seriesUrl

end Settings

end Testbed
