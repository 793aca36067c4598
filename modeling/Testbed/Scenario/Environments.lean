/-
This file follows steps of a scenario about environments.
-/

import Testbed.Environment.Environment
import Testbed.Scenario.Concern
import Testbed.Scenario.Faults
import Testbed.Scenario.Run

namespace Testbed

open Decode Encode

def Rehearsal.ComposeProgram.ofJson? : Decode Rehearsal.ComposeProgram := fun input => do
  let _ ← members input
  return {
    failsOn := ← optional string input "fail"
    exitCode := ← optionalOr 1 (natUpTo 255) input "exit"
    complaint := Text.bytesOf (← optionalOr "" string input "stderr") }

/-- A topic and whether it was created here. -/
def TopicHandle.toJson (handle : TopicHandle) : Json :=
  .array [text handle.name, .bool handle.isCreated]

def TableHandle.toJson (handle : TableHandle) : Json := text handle.schema

def SeriesHandle.toJson (handle : SeriesHandle) : Json := text handle.url

def Environment.toJson (environment : Environment) : Json :=
  record
    [("resource_count", nat environment.resourceCount), ("stopped", .bool environment.isStopped),
      ("topics", array TopicHandle.toJson environment.topics),
      ("table", nullable TableHandle.toJson environment.table),
      ("series", nullable SeriesHandle.toJson environment.seriesHandle),
      ("stores", .array
        [.bool environment.relational.isSome, .bool environment.series.isSome]),
      ("brokers", text environment.settings.brokers)]

namespace Scenario

/-- Follows a step about an environment. -/
def followEnvironment (environment : Environment) (step : Json) : Run (Json × Environment) := do
  let unit := outcome ProvisioningError.toJson
  match ← read (list step) with
  | [.string "topic", name] =>
    let name ← read (string name)
    let (ensured, environment) ← perform (environment.ensureTopic name)
    return (result ProvisioningError.toJson TopicHandle.toJson ensured, environment)
  | [.string "table"] =>
    let (ensured, environment) ← perform environment.ensureTable
    return (result ProvisioningError.toJson TableHandle.toJson ensured, environment)
  | [.string "series"] =>
    let (ensured, environment) ← perform environment.ensureSeries
    return (result ProvisioningError.toJson SeriesHandle.toJson ensured, environment)
  | [.string "wait_for_broker"] => return (unit (← perform environment.waitForBroker), environment)
  | [.string "reset"] => return (unit (← perform environment.reset), environment)
  | [.string "stop"] =>
    let environment ← perform environment.stop
    return (.null, environment)
  | [.string "debug"] => return (text environment.inspect, environment)
  | _ => refuse

/-- The account of a step about an environment. -/
def environmentAccount (reply : Json) (environment : Environment) : Run Json := do
  return record
    [("r", reply), ("state", environment.toJson), ("seen", ← takeSeen), ("log", ← takeLog)]

/-- The account of what can not be started. -/
def unstarted (cause : ProvisioningError) : Run Json := do
  return record [("start", cause.toJson), ("seen", ← takeSeen), ("log", ← takeLog)]

/-- Starts an environment, follows steps about it and leaves it behind. -/
def environmentRun (settings : Settings) (required : RequiredResources) (steps : List Json) :
    Run Json := do
  match ← perform (Environment.start settings required) with
  | .error cause => unstarted cause
  | .ok environment =>
    let start := record
      [("ok", environment.toJson), ("seen", ← takeSeen), ("log", ← takeLog)]
    let (accounts, environment) ←
      followAll followEnvironment environmentAccount steps environment
    perform environment.drop
    return record [("start", start), ("steps", .array accounts), ("dropped", ← takeLog)]

end Scenario

end Testbed
