/-
This file reads launches out of a scenario. A launch is given by its parts, or as a service of the
catalogue with calls that change it one after another.
-/

import Testbed.Scenario.Concern
import Testbed.Service.Catalogue

namespace Testbed

open Decode

/-- Reads a role, by the name of its executable or by its stem. -/
def Role.ofJson? : Decode Role := fun input => do
  let name ← string input
  Role.all.find? fun role => role.executableName == name || role.stem == name

namespace Launch

/-- A port on which somebody listens, where the network lets anybody reach it. -/
def openPort : UInt16 := 65504

/-- A port on which nobody listens. -/
def closedPort : UInt16 := 1

/-- Reads the port of a launch, which may be known by whether somebody listens on it. -/
def portOfJson? : Decode UInt16
  | .string "open" => some openPort
  | .string "closed" => some closedPort
  | input => uint16 input

/-- Reads a launch from its parts. -/
def ofParts? : Decode Launch := fun input => do
  let role ← required Role.ofJson? input "role"
  let fragments ← required (listOf Fragment.ofJson?) input "fragments"
  if ← optionalOr false bool input "minimal" then return { role, fragments }
  else return {
    role
    fragments
    storage := ← optional Storage.ofJson? input "storage"
    plugsIn := ← optionalOr false bool input "plugin_argument"
    settings := ← optionalOr [] entries input "settings"
    port := ← optional portOfJson? input "rpc_port" }

end Launch

/-- Changes a service by the calls of its description, in order. -/
def changedBy {Service : Type} (change : Service → String → List Json → Option Service)
    (input : Json) (service : Service) : Option Service := do
  let calls ← optionalOr [] (listOf list) input "with"
  calls.foldlM (fun service call =>
    match call with
    | .string name :: arguments => change service name arguments
    | _ => none) service

namespace CommandService

/-- The service after a call. -/
def change? (service : CommandService) : String → List Json → Option CommandService
  | "report", [report] => (ReportTarget.ofJson? report).map service.withReport
  | "monitoring", [monitoring] => (Monitoring.ofJson? monitoring).map service.withMonitoring
  | "async_task_limit", [limit] => (uint64 limit).map service.withTaskLimit
  | "unordered", _ => some service.unordered
  | _, _ => none

def ofJson? : Decode CommandService := fun input => do
  changedBy change? input
    (make (← required EventInput.ofJson? input "input")
      (← required Storage.ofJson? input "storage"))

end CommandService

namespace EdgeRegistry

/-- The service after a call. -/
def change? (service : EdgeRegistry) : String → List Json → Option EdgeRegistry
  | "input", [input] => (EventInput.ofJson? input).map service.withInput
  | "report", [report] => (ReportTarget.ofJson? report).map service.withReport
  | "rpc_port", [port] => (uint16 port).map service.withPort
  | _, _ => none

def ofJson? : Decode EdgeRegistry := fun input => do
  changedBy change? input { storage := ← required Storage.ofJson? input "storage" }

end EdgeRegistry

namespace SchemaRegistry

/-- The service after a call. -/
def change? (service : SchemaRegistry) : String → List Json → Option SchemaRegistry
  | "rpc_port", [port] => (uint16 port).map service.withPort
  | _, _ => none

def ofJson? : Decode SchemaRegistry := fun input => do
  changedBy change? input
    { storage := ← required Storage.ofJson? input "storage"
      replication := ← required EventInput.ofJson? input "input" }

end SchemaRegistry

namespace QueryRouter

/-- The service after a call. -/
def change? (service : QueryRouter) : String → List Json → Option QueryRouter
  | "rpc_port", [port] => (uint16 port).map service.withPort
  | _, _ => none

def ofJson? : Decode QueryRouter := fun input => do
  changedBy change? input
    { registryAddress := ← required string input "schema_registry_addr" }

end QueryRouter

namespace ObjectBuilder

/-- The service after a call. -/
def change? (service : ObjectBuilder) : String → List Json → Option ObjectBuilder
  | "rpc_port", [port] => (uint16 port).map service.withPort
  | _, _ => none

def ofJson? : Decode ObjectBuilder := fun input => do
  changedBy change? input
    { input := ← required EventInput.ofJson? input "input"
      registryUrl := ← required string input "schema_registry_url" }

end ObjectBuilder

/-- Reads the launch of a service by the name of its executable. -/
def Launch.ofService? (input : Json) : String → Option Launch
  | "command-service" => (CommandService.ofJson? input).map CommandService.launch
  | "edge-registry" => (EdgeRegistry.ofJson? input).map EdgeRegistry.launch
  | "schema-registry" => (SchemaRegistry.ofJson? input).map SchemaRegistry.launch
  | "query-router" => (QueryRouter.ofJson? input).map QueryRouter.launch
  | "object-builder" => (ObjectBuilder.ofJson? input).map ObjectBuilder.launch
  | _ => none

def Launch.ofJson? : Decode Launch := fun input =>
  match input.get? "service" with
  | some service => (string service).bind (ofService? input)
  | none => ofParts? input

end Testbed
