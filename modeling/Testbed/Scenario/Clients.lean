/-
This file follows calls of a scenario to the clients of the stores, the services and the broker. A
call is an array of its name and its arguments; its account is what the client gave.
-/

import Testbed.Scenario.Faults
import Testbed.Scenario.Messages
import Testbed.Scenario.Run

namespace Testbed.Scenario

open Decode Encode

/-- Makes calls one after another. -/
def callAll (follow : Json → Run Json) (account : Json → Run Json) (calls : List Json) :
    Run Json := do
  return .array (← calls.mapM fun call => do account (← follow call))

/-! ### The series store -/

/-- Reads the body of a query. -/
def queryBody? : Decode QueryBody
  | .string "empty" => some .empty
  | .object [("raw", statement)] => (string statement).map QueryBody.raw
  | .object [("range", range)] => do
    return .range (← required string range "from") (← required string range "to")
      (← required string range "step")
  | _ => none

/-- Makes a call to the series store. -/
def callSeries (store : SeriesStore) (call : Json) : Run Json := do
  let unit := outcome SeriesError.toJson
  let exported := result SeriesError.toJson (array ExportedSeries.toJson)
  match ← read (list call) with
  | [.string "health"] => return unit (← perform store.health)
  | [.string "write_lines", lines] =>
    let lines ← read (strings lines)
    return unit (← perform (store.writeLines lines))
  | [.string "export", selector] =>
    let selector ← read (string selector)
    return exported (← perform (store.exportMatching selector))
  | [.string "export_all"] => return exported (← perform store.exportAll)
  | [.string "query_range", query, first, last, step] =>
    let query ← read (string query)
    let first ← read (int64 first)
    let last ← read (int64 last)
    let step ← read (duration step)
    return result SeriesError.toJson QueryResponse.toJson
      (← perform (store.queryRange query ⟨first⟩ ⟨last⟩ step))
  | [.string "delete_all"] => return unit (← perform store.deleteAll)
  | _ => refuse

/-! ### The query router -/

/-- Makes a call to the query router. -/
def callRouter (client : QueryRouterClient) (call : Json) : Run Json := do
  let answered := result QueryError.toJson id
  match ← read (list call) with
  | [.string "single", schema, object, body] =>
    let schema ← read (uuid schema)
    let object ← read (uuid object)
    let body ← read (queryBody? body)
    return answered (← perform (client.single schema object body))
  | [.string "multiple", schema, objects] =>
    let schema ← read (uuid schema)
    let objects ← read (listOf uuid objects)
    return answered (← perform (client.multiple schema objects))
  | [.string "schema", schema] =>
    let schema ← read (uuid schema)
    return answered (← perform (client.bySchema schema))
  | [.string "raw", schema, statement] =>
    let schema ← read (uuid schema)
    let statement ← read (string statement)
    return answered (← perform (client.raw schema statement))
  | _ => refuse

/-! ### The edge registry -/

/-- Makes a call to the edge registry. -/
def callRegistry (client : EdgeRegistryClient) (call : Json) : Run Json := do
  let unit := outcome EdgeError.toJson
  match ← read (list call) with
  | [.string "add_relation", parent, child] =>
    let parent ← read (uuid parent)
    let child ← read (uuid child)
    return result EdgeError.toJson (fun (identifier : Uuid) => .string identifier.text)
      (← perform (client.addRelation parent child))
  | [.string "list_relations"] =>
    return result EdgeError.toJson (array Edges.RelationDetails.toJson)
      (← perform client.listRelations)
  | [.string "add_edges", edges] =>
    let edges ← read (listOf Edges.Edge.ofJson? edges)
    return unit (← perform (client.addEdges edges))
  | [.string "get_edge", relation, parent] =>
    let relation ← read (uuid relation)
    let parent ← read (uuid parent)
    return result EdgeError.toJson Edges.Edge.toJson (← perform (client.getEdge relation parent))
  | [.string "get_edges", object] =>
    let object ← read (uuid object)
    return result EdgeError.toJson (array Edges.Edge.toJson) (← perform (client.getEdges object))
  | [.string "heartbeat"] => return unit (← perform client.heartbeat)
  | _ => refuse

/-! ### The relational store -/

/-- Reads a row. -/
def row? : Decode DataRow := fun input => do
  return {
    object := ← required uuid input "object_id"
    version := ← required int64 input "version"
    schema := ← required uuid input "schema_id"
    payload := ← input.get? "payload" }

/-- Makes a call to the relational store. -/
def callRelational (store : RelationalStore) (call : Json) : Run Json := do
  let unit := outcome RelationalError.toJson
  let rows := result RelationalError.toJson (array DataRow.toJson)
  match ← read (list call) with
  | [.string "ensure_data_table"] => return unit (← perform store.ensureDataTable)
  | [.string "fetch_data"] => return rows (← perform store.fetchData)
  | [.string "fetch_object", object] =>
    let object ← read (uuid object)
    return rows (← perform (store.fetchObject object))
  | [.string "insert_data", inserted] =>
    let inserted ← read (listOf row? inserted)
    return unit (← perform (store.insertData inserted))
  | [.string "clear_data"] =>
    return result RelationalError.toJson (fun (count : UInt64) => nat count.toNat)
      (← perform store.clearData)
  | [.string "clear_relations"] => return unit (← perform store.clearRelations)
  | [.string "close"] =>
    perform store.close
    return .null
  | _ => refuse

/-! ### The administrator of topics -/

/-- Makes a call to the administrator of topics. -/
def callAdmin (admin : Broker.TopicAdmin) (call : Json) : Run Json := do
  let truth := result Broker.AdminError.toJson .bool
  match ← read (list call) with
  | [.string "create", topic] =>
    let topic ← read (string topic)
    return truth (← perform (admin.createIfAbsent topic))
  | [.string "delete", topic] =>
    let topic ← read (string topic)
    return outcome Broker.AdminError.toJson (← perform (admin.delete topic))
  | [.string "exists", topic] =>
    let topic ← read (string topic)
    return truth (← perform (admin.contains topic))
  | _ => refuse

/-! ### The publisher -/

/-- What stands for the reason why a record was not acknowledged. -/
def reasonMark : FieldValue := .text "<reason>"

/-- An event with a mark in place of the reason why a record was not acknowledged. -/
def markReason (event : Event) : Event :=
  { event with
    fields := event.fields.map fun (name, value) =>
      (name, if name == "reason" then reasonMark else value) }

/-- The events of a publisher since they were last asked for. -/
def takePublisherLog : Run Json := fun machine =>
  let (events, machine) := machine.takeEvents
  some (array (fun event => Event.toJson (markReason event)) events, machine)

/-- Makes a call to the publisher. -/
def callPublisher (publisher : Publisher) (call : Json) : Run (Json × Publisher) := do
  let unit := outcome PublishError.toJson
  match ← read (list call) with
  | [.string "publish", offered, topic] =>
    let topic ← read (string topic)
    return (unit (← perform (publisher.publish (.ok offered) topic)), publisher)
  | [.string "publish_all", offered, topic] =>
    let offered ← read (list offered)
    let topic ← read (string topic)
    return (unit (← perform (publisher.publishAll topic (offered.map .ok))), publisher)
  | [.string "enqueue", offered, topic] =>
    let topic ← read (string topic)
    let (enqueued, publisher) ← perform (publisher.enqueue (.ok offered) topic)
    return (unit enqueued, publisher)
  | [.string "flush"] =>
    let (flushed, publisher) ← perform publisher.flush
    return (result PublishError.toJson nat flushed, publisher)
  | [.string "debug"] => return (ok (text publisher.inspect), publisher)
  | _ => refuse

/-- The account of a call to the publisher. -/
def publisherAccount (reply : Json) (publisher : Publisher) : Run Json := do
  return record
    [("result", reply), ("records", .array []), ("pending", nat publisher.pending.length),
      ("log", ← takePublisherLog)]

end Testbed.Scenario
