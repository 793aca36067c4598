/-
This file provides the infrastructure of a test run and takes it away again. What a test requires
is made ready piece by piece, each piece only once. Stopping takes away everything that was made
ready, also after an incomplete start: it never fails, and does its work only once.
-/

import Testbed.Environment.Compose
import Testbed.Poll.Work
import Testbed.Settings
import Testbed.Teardown

namespace Testbed

open Text Outside Broker

/-- The infrastructure of a test run. -/
structure Environment where
  settings : Settings
  required : RequiredResources
  compose : Option ComposeProject
  isComposeStarted : Bool := false
  admin : Option TopicAdmin := none
  relational : Option RelationalStore := none
  series : Option SeriesStore := none
  /-- The topics in the order in which they were made ready. -/
  topics : List TopicHandle := []
  table : Option TableHandle := none
  seriesHandle : Option SeriesHandle := none
  isStopped : Bool := false

namespace Environment

/-- An environment of which nothing is ready. -/
def make (settings : Settings) (required : RequiredResources) : Environment where
  settings
  required
  compose := settings.composeFile.map fun file => { file, project := settings.composeProject }

/-- The number of resources that are held. -/
def resourceCount (environment : Environment) : Nat :=
  environment.topics.length + (if environment.table.isSome then 1 else 0)
    + (if environment.seriesHandle.isSome then 1 else 0)

/-! ### Readiness -/

/-- The value that a retrieval of a resource ended with. -/
def ready {Value Failure : Type} (resource : String) (describe : Failure → String)
    (outcome : Poll.Outcome Value Failure) : Work (Except ProvisioningError Value) :=
  match outcome with
  | .satisfied value attempts => do
    note .debug "lake.env" "Resource ready"
      [("resource", .text resource), ("attempts", .number attempts.toNat)]
    return .ok value
  | .exhausted _ attempts => return .error (.notReady resource attempts "condition not met")
  | .failed failure _ attempts => return .error (.notReady resource attempts (describe failure))
  | .cancelled _ attempts => return .error (.notReady resource attempts "cancelled")

/-- Makes attempts until one succeeds, within the budget for readiness. -/
def untilReady {Value Failure : Type} (environment : Environment) (resource : String)
    (describe : Failure → String) (attempt : Work (Except Failure Value)) :
    Work (Except ProvisioningError Value) := do
  let outcome ← Poll.retrieve describe attempt environment.settings.readiness
  ready resource describe outcome

/-- The time that a connection may take. -/
def connectLimit : Duration := .ofSeconds 5

/-- Tries once to connect to an address. -/
def probe (address : String) : Work (Except String Unit) := do
  match ← ask (.connect address (some connectLimit)) with
  | .open => return .ok ()
  | .failed cause => return .error cause
  | .timedOut => return .error ("connect to " ++ address ++ " timed out")

/-- The first broker of a list. -/
def firstBroker (brokers : String) : String :=
  trim (String.ofList ((splitAt ',' brokers.toList).headD []))

/-- Waits until the first broker accepts connections. -/
def waitForBroker (environment : Environment) : Work (Except ProvisioningError Unit) :=
  environment.untilReady "event log broker" id (probe (firstBroker environment.settings.brokers))

/-! ### Making resources ready -/

/-- The administrator of topics, made when it is first needed. -/
def obtainAdmin (environment : Environment) :
    Work (Except ProvisioningError TopicAdmin × Environment) :=
  match environment.admin with
  | some admin => return (.ok admin, environment)
  | none => do
    match ← TopicAdmin.forBrokers environment.settings.brokers with
    | .error cause => return (.error (.broker cause), environment)
    | .ok admin => return (.ok admin, { environment with admin := some admin })

/-- Creates a topic that is not held yet. -/
def createTopic (environment : Environment) (name : String) :
    Work (Except ProvisioningError TopicHandle × Environment) := do
  match ← environment.waitForBroker with
  | .error error => return (.error error, environment)
  | .ok () =>
    let (obtained, environment) ← environment.obtainAdmin
    match obtained with
    | .error error => return (.error error, environment)
    | .ok admin =>
      let created ← environment.untilReady ("topic " ++ name) AdminError.message
        (admin.createIfAbsent name)
      match created with
      | .error error => return (.error error, environment)
      | .ok isCreated =>
        let handle : TopicHandle := { name, isCreated }
        return (.ok handle, { environment with topics := environment.topics ++ [handle] })

/-- Makes sure that a topic exists. -/
def ensureTopic (environment : Environment) (name : String) :
    Work (Except ProvisioningError TopicHandle × Environment) :=
  match environment.topics.find? fun handle => handle.name == name with
  | some handle => return (.ok handle, environment)
  | none => environment.createTopic name

/-- Connects to the relational store and creates the data table. The store is held before the table
is created, so that it is closed in any case. -/
def createTable (environment : Environment) :
    Work (Except ProvisioningError Unit × Environment) := do
  let connected ← environment.untilReady "relational store" RelationalError.message
    (RelationalStore.connect environment.settings.relational)
  match connected with
  | .error error => return (.error error, environment)
  | .ok store =>
    let environment := { environment with relational := some store }
    match ← store.ensureDataTable with
    | .error cause => return (.error (.relational cause), environment)
    | .ok () =>
      return (.ok (), { environment with table := some { schema := store.schema } })

/-- The data table that is held. -/
def heldTable (environment : Environment) : Except ProvisioningError TableHandle :=
  match environment.table with
  | some handle => .ok handle
  | none => .error (.notReady "relational store" 0 "table handle missing")

/-- Makes sure that the data table exists. -/
def ensureTable (environment : Environment) :
    Work (Except ProvisioningError TableHandle × Environment) :=
  if environment.table.isSome then return (environment.heldTable, environment)
  else do
    let (created, environment) ← environment.createTable
    match created with
    | .error error => return (.error error, environment)
    | .ok () => return (environment.heldTable, environment)

/-- Waits until the series store answers. -/
def awaitSeries (environment : Environment) :
    Work (Except ProvisioningError Unit × Environment) := do
  match ← SeriesStore.openAt environment.settings.seriesUrl with
  | .error cause => return (.error (.series cause), environment)
  | .ok store =>
    let answered ← environment.untilReady "series store" SeriesError.message store.health
    match answered with
    | .error error => return (.error error, environment)
    | .ok () =>
      let handle : SeriesHandle := { url := store.baseUrl }
      return (.ok (), { environment with seriesHandle := some handle, series := some store })

/-- The series store that is held. -/
def heldSeries (environment : Environment) : Except ProvisioningError SeriesHandle :=
  match environment.seriesHandle with
  | some handle => .ok handle
  | none => .error (.notReady "series store" 0 "series handle missing")

/-- Makes sure that the series store answers. -/
def ensureSeries (environment : Environment) :
    Work (Except ProvisioningError SeriesHandle × Environment) :=
  if environment.seriesHandle.isSome then return (environment.heldSeries, environment)
  else do
    let (answered, environment) ← environment.awaitSeries
    match answered with
    | .error error => return (.error error, environment)
    | .ok () => return (environment.heldSeries, environment)

/-! ### Emptying stores -/

/-- Empties the tables of the relational store. -/
def clearRelational (store : RelationalStore) (clearsRelations : Bool) :
    Work (Except RelationalError Unit) := do
  match ← store.clearData with
  | .error error => return .error error
  | .ok _ => if clearsRelations then store.clearRelations else return .ok ()

/-- Empties the series store, if it is held. -/
def resetSeries (environment : Environment) : Work (Except ProvisioningError Unit) :=
  match environment.series with
  | none => return .ok ()
  | some store => do
    match ← store.deleteAll with
    | .error cause => return .error (.series cause)
    | .ok () => return .ok ()

/-- Empties the relational store, if it is held. -/
def resetRelational (environment : Environment) : Work (Except ProvisioningError Unit) :=
  match environment.relational with
  | none => return .ok ()
  | some store => do
    match ← clearRelational store environment.required.clearsRelations with
    | .error cause => return .error (.relational cause)
    | .ok () => return .ok ()

/-- Empties every store that is held. -/
def reset (environment : Environment) : Work (Except ProvisioningError Unit) := do
  match ← environment.resetSeries with
  | .error error => return .error error
  | .ok () => environment.resetRelational

/-! ### Stopping -/

/-- Empties the relational store and closes it in any case. -/
def clearAndClose (store : RelationalStore) (clearsRelations : Bool) :
    Work (Except RelationalError Unit) := do
  let cleared ← clearRelational store clearsRelations
  store.close
  return cleared

/-- The steps that take the compose project away. -/
def composeSteps (environment : Environment) (teardown : Teardown) : Teardown :=
  match environment.isComposeStarted, environment.compose with
  | true, some compose =>
    teardown.pushFailing "compose down" ProvisioningError.message compose.down
  | _, _ => teardown

/-- The steps that delete the topics. -/
def topicSteps (environment : Environment) (teardown : Teardown) : Teardown :=
  match environment.admin with
  | some admin =>
    environment.topics.foldl (fun teardown topic =>
      teardown.pushFailing ("delete topic " ++ topic.name) AdminError.message
        (admin.delete topic.name)) teardown
  | none => teardown

/-- The steps that empty and close the relational store. -/
def relationalSteps (environment : Environment) (teardown : Teardown) : Teardown :=
  match environment.relational with
  | some store =>
    teardown.pushFailing "clear relational store" RelationalError.message
      (clearAndClose store environment.required.clearsRelations)
  | none => teardown

/-- The steps that empty the series store. -/
def seriesSteps (environment : Environment) (teardown : Teardown) : Teardown :=
  match environment.series with
  | some store => teardown.pushFailing "delete series" SeriesError.message store.deleteAll
  | none => teardown

/-- The steps that take everything away, registered in the reverse of the order in which they
run. -/
def teardown (environment : Environment) : Teardown :=
  environment.seriesSteps (environment.relationalSteps (environment.topicSteps
    (environment.composeSteps .empty)))

/-- The environment when nothing is held any more. -/
def cleared (environment : Environment) : Environment :=
  { environment with
    admin := none
    relational := none
    series := none
    topics := []
    table := none
    seriesHandle := none
    isStopped := true }

/-- Takes everything away that was made ready, the first time it is asked to. -/
def stop (environment : Environment) : Work Environment :=
  if environment.isStopped then return environment
  else do
    let (failures, _) ← environment.teardown.run
    if failures = 0 then note .info "lake.env" "Environment stopped" []
    else
      note .warn "lake.env" "Environment stopped with teardown failures"
        [("failures", .number failures)]
    return environment.cleared

/-- Leaves an environment behind. -/
def drop (environment : Environment) : Work Unit :=
  if environment.isStopped then return ()
  else
    note .warn "lake.env" "Environment dropped without stop(); resources were not cleared"
      [("resources", .number environment.resourceCount)]

/-! ### Starting -/

/-- Starts the compose project, if there is one. It counts as started even if that fails. -/
def startCompose (environment : Environment) :
    Work (Except ProvisioningError Unit × Environment) :=
  match environment.compose with
  | none => return (.ok (), environment)
  | some compose => do
    let started ← compose.up
    return (started, { environment with isComposeStarted := true })

/-- Makes sure that topics exist, up to the first that can not be made ready. -/
def ensureTopics : List String → Environment → Work (Except ProvisioningError Unit × Environment)
  | [], environment => return (.ok (), environment)
  | name :: rest, environment => do
    let (ensured, environment) ← environment.ensureTopic name
    match ensured with
    | .error error => return (.error error, environment)
    | .ok _ => ensureTopics rest environment

/-- Makes sure that the data table exists, if the relational store is required. -/
def ensureRequiredTable (environment : Environment) :
    Work (Except ProvisioningError Unit × Environment) :=
  if environment.required.relational then do
    let (ensured, environment) ← environment.ensureTable
    return (ensured.map fun _ => (), environment)
  else return (.ok (), environment)

/-- Makes sure that the series store answers, if it is required. -/
def ensureRequiredSeries (environment : Environment) :
    Work (Except ProvisioningError Unit × Environment) :=
  if environment.required.series then do
    let (ensured, environment) ← environment.ensureSeries
    return (ensured.map fun _ => (), environment)
  else return (.ok (), environment)

/-- Makes everything ready that is required, up to the first piece that can not be. -/
def provision (environment : Environment) :
    Work (Except ProvisioningError Unit × Environment) := do
  let (started, environment) ← environment.startCompose
  match started with
  | .error error => return (.error error, environment)
  | .ok () =>
    let (ensured, environment) ← ensureTopics environment.required.topics environment
    match ensured with
    | .error error => return (.error error, environment)
    | .ok () =>
      let (ensured, environment) ← environment.ensureRequiredTable
      match ensured with
      | .error error => return (.error error, environment)
      | .ok () => environment.ensureRequiredSeries

/-- Starts an environment with everything that is required. If that fails, what was made ready is
taken away before the error is reported. -/
def start (settings : Settings) (required : RequiredResources) :
    Work (Except ProvisioningError Environment) := do
  let (provisioned, environment) ← (make settings required).provision
  match provisioned with
  | .ok () =>
    note .info "lake.env" "Environment ready"
      [("topics", .number environment.topics.length),
        ("postgres", .truth environment.table.isSome),
        ("series_store", .truth environment.seriesHandle.isSome)]
    return .ok environment
  | .error error =>
    note .warn "lake.env" "Environment start failed, tearing down"
      [("error", .text error.message)]
    let _ ← environment.stop
    return .error error

def inspect (environment : Environment) : String :=
  inspectPartly "Environment"
    [("topics", inspectList (environment.topics.map TopicHandle.inspect)),
      ("table", inspectOption (environment.table.map TableHandle.inspect)),
      ("series", inspectOption (environment.seriesHandle.map SeriesHandle.inspect)),
      ("compose_started", inspectBool environment.isComposeStarted),
      ("stopped", inspectBool environment.isStopped)]

end Environment

end Testbed
