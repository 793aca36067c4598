/-
This file defines the roles of the services that are launched: the stem of the variables each one
reads, the name of its executable, and the stores it can persist into.
-/

import Testbed.Config.Storage

namespace Testbed

/-- The services. -/
inductive Role where
  /-- Takes records in and persists them. -/
  | commandService
  | queryRouter
  | edgeRegistry
  | schemaRegistry
  | objectBuilder
  deriving DecidableEq, Repr

namespace Role

/-- All services. -/
def all : List Role :=
  [commandService, queryRouter, edgeRegistry, schemaRegistry, objectBuilder]

/-- The stem of every variable that the service reads. -/
def stem : Role → String
  | commandService => "COMMAND_SERVICE"
  | queryRouter => "QUERY_ROUTER"
  | edgeRegistry => "EDGE_REGISTRY"
  | schemaRegistry => "SCHEMA_REGISTRY"
  | objectBuilder => "OBJECT_BUILDER"

/-- The name of the executable, by which the service is also observed. -/
def executableName : Role → String
  | commandService => "command-service"
  | queryRouter => "query-router"
  | edgeRegistry => "edge-registry"
  | schemaRegistry => "schema-registry"
  | objectBuilder => "object-builder"

/-- The name of the role where a process is shown. -/
def inspect : Role → String
  | commandService => "CommandService"
  | queryRouter => "QueryRouter"
  | edgeRegistry => "EdgeRegistry"
  | schemaRegistry => "SchemaRegistry"
  | objectBuilder => "ObjectBuilder"

/-- The stores that the service can persist into. -/
def backends : Role → List Backend
  | commandService => [.relational, .series, .column]
  | edgeRegistry => [.relational]
  | schemaRegistry => [.relational]
  | queryRouter => []
  | objectBuilder => []

end Role

end Testbed
