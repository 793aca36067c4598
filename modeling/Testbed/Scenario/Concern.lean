/-
This file reads what a launch is made of out of a scenario: fragments of configuration, the backend
that stores objects, variables, and what a test requires. A scenario is a JSON document that lays
down what is done with a part of this library.
-/

import Testbed.Config.Storage
import Testbed.Environment.Resource
import Testbed.Json.Decode

namespace Testbed

open Decode

def RelationalAccess.ofJson? : Decode RelationalAccess := fun input => do
  let plain : RelationalAccess := {}
  return {
    host := ← optionalOr plain.host string input "host"
    port := ← optionalOr plain.port uint16 input "port"
    username := ← optionalOr plain.username string input "username"
    password := ⟨← optionalOr plain.password.exposed string input "password"⟩
    database := ← optionalOr plain.database string input "dbname"
    schema := ← optionalOr plain.schema string input "schema" }

def EventInput.ofJson? : Decode EventInput := fun input => do
  return {
    brokers := ← required string input "brokers"
    topic := ← required string input "topic"
    group := ← optionalOr defaultGroup string input "group_id" }

/-- Reads a target of reports. A disabled one has no destination. -/
def ReportTarget.ofJson? : Decode ReportTarget := fun input => do
  if ← optionalOr false bool input "disabled" then return .disabled
  else return {
    destination := ← required string input "destination"
    isEnabled := ← optionalOr true bool input "enabled" }

def Monitoring.ofJson? : Decode Monitoring := fun input => do
  let plain : Monitoring := { serviceName := ← required string input "service_name" }
  return { plain with
    metricsPort := ← optionalOr plain.metricsPort uint16 input "metrics_port"
    statusPort := ← optionalOr plain.statusPort uint16 input "status_port" }

/-- Reads a fragment with entries of its own, which may stand under a stem of its own. -/
def Fragment.customOfJson? : Decode Fragment := fun input => do
  let sectionName ← required string input "section"
  let entries ← required Decode.entries input "entries"
  match ← optional string input "render_as" with
  | none => return { sectionName, entries }
  | some stem =>
    return { sectionName, entries, render := fun _ => renderSection sectionName entries stem }

/-- Reads the backend that stores objects. -/
def Storage.ofJson? : Decode Storage := fun input => do
  match ← required string input "kind" with
  | "postgres" => return .relational (← RelationalAccess.ofJson? input)
  | "victoria_metrics" => return .series ⟨← required string input "url"⟩
  | "druid" => return .column ⟨← required string input "topic"⟩
  | _ => none

def Fragment.ofJson? : Decode Fragment := fun input => do
  match ← required string input "kind" with
  | "kafka_input" => return (← EventInput.ofJson? input).fragment
  | "kafka_report" => return (← ReportTarget.ofJson? input).fragment
  | "monitoring" => return (← Monitoring.ofJson? input).fragment
  | "custom" => Fragment.customOfJson? input
  | _ => return (← Storage.ofJson? input).fragment

/-- Reads variables from an object of strings. -/
def Variables.ofJson? : Decode Variables := fun input => do
  let fields ← members input
  let entries ← fields.mapM fun (key, value) => (string value).map fun value => (key, value)
  (Variables.insertAll entries .empty).toOption

/-- Adds what one step of a list asks for to what a test requires. -/
def RequiredResources.adding? (required : RequiredResources) : Json → Option RequiredResources
  | .array [.string "topic", name] => (string name).map required.withTopic
  | .array [.string "postgres"] => some required.withRelational
  | .array [.string "series_store"] => some required.withSeries
  | .array [.string "clear_relations"] => some required.clearingRelations
  | _ => .none

/-- Reads what a test requires from a list of steps. -/
def RequiredResources.ofJson? : Decode RequiredResources := fun input =>
  (list input).bind fun steps => steps.foldlM adding? .none

end Testbed
