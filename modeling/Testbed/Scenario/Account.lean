/-
This file writes values into accounts. An account is the JSON document that tells what came of a
scenario. The number of a process differs from run to run and is left out of it.
-/

import Testbed.Json.Encode
import Testbed.Log.Event
import Testbed.Relational.Row
import Testbed.Series.Export
import Testbed.Series.Query
import Testbed.Service.Launch
import Testbed.Text.Hex
import Testbed.Time.Duration

namespace Testbed

open Encode

def Duration.toJson (duration : Duration) : Json :=
  record [("secs", nat duration.seconds), ("nanos", nat duration.subsecond)]

/-- The bits of a double. -/
def doubleJson (value : Float) : Json :=
  let bits := value.toBits.toNat
  text ("f64:" ++ String.ofList (Text.hexDigits ((List.range 8).map fun index =>
    UInt8.ofNat (bits / Nat.pow 256 (7 - index)))))

/-- What stands for the number of a process. -/
def processMark : String := "<pid>"

/-- A field of an event. -/
def FieldValue.toJson (name : String) : FieldValue → Json
  | text value => if name == "pid" then Encode.text processMark else Encode.text value
  | number value => .ofInt value
  | truth value => .bool value

def Event.toJson (event : Event) : Json :=
  .array
    [text event.level.name, text event.target, text event.message,
      record (event.fields.map fun (name, value) => (name, value.toJson name))]

/-- The members of exported series. -/
def ExportedSeries.fields (series : ExportedSeries) : List (String × Json) :=
  [("metric", pairs series.metric), ("name", nullable text series.name?),
    ("values", array doubleJson series.values),
    ("timestamps", array (fun time => .ofInt time.toInt) series.timestamps),
    ("samples", array (fun (time, value) =>
      .array [.ofInt time.milliseconds.toInt, doubleJson value]) series.samples)]

def ExportedSeries.toJson (series : ExportedSeries) : Json := record series.fields

def sampleJson (sample : QuerySample) : Json :=
  .array [doubleJson sample.1, text sample.2]

def QueryResult.toJson (answered : QueryResult) : Json :=
  record
    [("metric", pairs answered.metric), ("value", nullable sampleJson answered.value),
      ("values", nullable (array sampleJson) answered.values)]

def QueryResponse.toJson (response : QueryResponse) : Json :=
  record
    [("status", text response.status), ("result_type", text response.resultType),
      ("result", array QueryResult.toJson response.result)]

def DataRow.toJson (row : DataRow) : Json :=
  record
    [("object_id", .string row.object.text), ("version", .ofInt row.version.toInt),
      ("schema_id", .string row.schema.text), ("payload", row.payload)]

/-- The section and the entries of a fragment. -/
def Fragment.fields (fragment : Fragment) : List (String × Json) :=
  [("section", text fragment.sectionName), ("entries", pairs fragment.entries)]

def Plan.toJson (plan : Plan) : Json :=
  record
    [("role", text plan.role.executableName), ("env", pairs plan.bindings.entries),
      ("args", texts plan.arguments), ("rpc_port", nullable (fun port => nat port.toNat) plan.port),
      ("env_debug", text plan.bindings.inspect)]

end Testbed
