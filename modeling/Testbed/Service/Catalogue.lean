/-
This file describes the five services: what each is configured with, the values that hold unless
others are chosen, and the launch that a description stands for.
-/

import Testbed.Service.Launch

namespace Testbed

/-- The setting that makes a service communicate over the event log. -/
def overEventLog : String × String := ("COMMUNICATION_METHOD", "kafka")

/-- The setting for the port of a service. -/
def portSetting (port : UInt16) : String × String := ("INPUT_PORT", portText port)

/-- The monitoring of a role on the ports that hold unless others are chosen. -/
def Role.monitoring (role : Role) : Monitoring where
  serviceName := role.executableName

/-! ### The command service -/

/-- The list on which the command service has its input topic. The records of ordered sources are
processed one at a time per key. -/
structure Listener where
  topic : String
  isOrdered : Bool

def Listener.fragment (listener : Listener) : Fragment where
  sectionName := "LISTENER"
  entries :=
    if listener.isOrdered then [("ORDERED_SOURCES", listener.topic), ("UNORDERED_SOURCES", "")]
    else [("ORDERED_SOURCES", ""), ("UNORDERED_SOURCES", listener.topic)]

/-- The command service takes records in from a topic and persists them into one store. -/
structure CommandService where
  input : EventInput
  listener : Listener
  storage : Storage
  report : ReportTarget := .disabled
  monitoring : Monitoring := Role.commandService.monitoring
  /-- How many tasks run at a time. -/
  taskLimit : UInt64 := 32

namespace CommandService

/-- The service with its input topic on the list of ordered sources. -/
def make (input : EventInput) (storage : Storage) : CommandService where
  input
  listener := { topic := input.topic, isOrdered := true }
  storage

def withReport (service : CommandService) (report : ReportTarget) : CommandService :=
  { service with report }

def withMonitoring (service : CommandService) (monitoring : Monitoring) : CommandService :=
  { service with monitoring }

def withTaskLimit (service : CommandService) (taskLimit : UInt64) : CommandService :=
  { service with taskLimit }

/-- Takes the input without order per key. -/
def unordered (service : CommandService) : CommandService :=
  { service with listener := { service.listener with isOrdered := false } }

def launch (service : CommandService) : Launch where
  role := .commandService
  storage := some service.storage
  plugsIn := true
  fragments :=
    [service.input.fragment, service.listener.fragment, service.report.fragment,
      service.monitoring.fragment]
  settings :=
    [overEventLog, ("REPOSITORY_KIND", service.storage.backend.repositoryKind),
      ("ASYNC_TASK_LIMIT", toString service.taskLimit.toNat)]

end CommandService

/-! ### The edge registry -/

/-- The edge registry keeps relations between schemas and edges between objects. -/
structure EdgeRegistry where
  storage : Storage
  input : Option EventInput := none
  report : ReportTarget := .disabled
  port : UInt16 := 50110

namespace EdgeRegistry

/-- Also takes updates of relations from a topic. -/
def withInput (service : EdgeRegistry) (input : EventInput) : EdgeRegistry :=
  { service with input := some input }

def withReport (service : EdgeRegistry) (report : ReportTarget) : EdgeRegistry :=
  { service with report }

def withPort (service : EdgeRegistry) (port : UInt16) : EdgeRegistry :=
  { service with port }

def launch (service : EdgeRegistry) : Launch where
  role := .edgeRegistry
  storage := some service.storage
  fragments :=
    [service.report.fragment, Role.edgeRegistry.monitoring.fragment]
      ++ (service.input.map EventInput.fragment).toList
  settings := [overEventLog, portSetting service.port]
  port := some service.port

end EdgeRegistry

/-! ### The schema registry -/

/-- The schema registry keeps schemas, and replicates them over the event log. -/
structure SchemaRegistry where
  storage : Storage
  /-- The brokers and the topic of the replication. -/
  replication : EventInput
  port : UInt16 := 50101

namespace SchemaRegistry

def withPort (service : SchemaRegistry) (port : UInt16) : SchemaRegistry :=
  { service with port }

def launch (service : SchemaRegistry) : Launch where
  role := .schemaRegistry
  storage := some service.storage
  fragments := [service.replication.fragment, Role.schemaRegistry.monitoring.fragment]
  settings := [overEventLog, ("REPLICATION_ROLE", "master"), portSetting service.port]
  port := some service.port

end SchemaRegistry

/-! ### The query router -/

/-- The query router answers queries, and asks the schema registry for schemas. -/
structure QueryRouter where
  registryAddress : String
  port : UInt16 := 50103

namespace QueryRouter

def withPort (service : QueryRouter) (port : UInt16) : QueryRouter :=
  { service with port }

/-- The URL under which clients reach the service. -/
def baseUrl (service : QueryRouter) : String :=
  "http://127.0.0.1:" ++ portText service.port

def launch (service : QueryRouter) : Launch where
  role := .queryRouter
  fragments := [Role.queryRouter.monitoring.fragment]
  settings := [("SCHEMA_REGISTRY_ADDR", service.registryAddress), portSetting service.port]
  port := some service.port

end QueryRouter

/-! ### The object builder -/

/-- The object builder makes materialised views. -/
structure ObjectBuilder where
  input : EventInput
  registryUrl : String
  port : UInt16 := 50107

namespace ObjectBuilder

def withPort (service : ObjectBuilder) (port : UInt16) : ObjectBuilder :=
  { service with port }

/-- The addresses of the services that the object builder calls. -/
def services (service : ObjectBuilder) : Fragment where
  sectionName := "SERVICES"
  entries := [("SCHEMA_REGISTRY_URL", service.registryUrl)]

def launch (service : ObjectBuilder) : Launch where
  role := .objectBuilder
  fragments :=
    [service.input.fragment, service.services, Role.objectBuilder.monitoring.fragment]
  settings := [overEventLog, portSetting service.port]
  port := some service.port

end ObjectBuilder

end Testbed
