/-
This file asks the query router for objects. Every request names the schema in a header.
-/

import Testbed.Http.Client
import Testbed.Uuid

namespace Testbed

open Text

/-- Why a query failed. -/
inductive QueryError where
  | http (failure : Http.Failure)
  /-- The router answered with an error. -/
  | requestFailed (status : UInt16) (body : String)
  /-- The answer is not JSON. -/
  | json (fault : Json.Fault)
  deriving DecidableEq, Repr

/-- The words for a failed query. -/
def QueryError.message : QueryError → String
  | http failure => "HTTP request failed: " ++ failure.message
  | requestFailed status body =>
    "Request failed with status " ++ toString status.toNat ++ ": " ++ body
  | json fault => "JSON deserialization failed: " ++ fault.message

/-- What a query asks for. -/
inductive QueryBody where
  /-- A range of time. -/
  | range (start finish step : String)
  /-- A statement for the store behind the router. -/
  | raw (statement : String)
  /-- Nothing in particular. -/
  | empty
  deriving DecidableEq, Repr

namespace QueryBody

/-- A member of an object of strings. -/
def member (name value : String) : String :=
  String.ofList (Json.stringText name) ++ ":" ++ String.ofList (Json.stringText value)

/-- The query as JSON text, with the fields in their order. -/
def text : QueryBody → String
  | range start finish step =>
    "\x7b" ++ joined "," [member "from" start, member "to" finish, member "step" step] ++ "\x7d"
  | raw statement => "\x7b" ++ member "raw_statement" statement ++ "\x7d"
  | empty => "\x7b\x7d"

def inspect : QueryBody → String
  | range start finish step =>
    inspectRecord "Range" [("from", quoted start), ("to", quoted finish), ("step", quoted step)]
  | raw statement => inspectRecord "Raw" [("raw_statement", quoted statement)]
  | empty => "Empty"

end QueryBody

/-- The query router under its URL. -/
structure QueryRouterClient where
  baseUrl : String
  deriving DecidableEq, Repr

namespace QueryRouterClient

/-- The query router under a URL, whose slashes at the end do not count. -/
def atUrl (url : String) : QueryRouterClient where
  baseUrl := dropTrailing '/' url

/-- The query router under a URL, with a client for the requests to it. -/
def openAt (url : String) : Work (Except QueryError QueryRouterClient) := do
  match ← Http.openClient with
  | .error failure => return .error (.http failure)
  | .ok () => return .ok (atUrl url)

/-- The value that a response holds. -/
def answer (response : Http.Response) : Except QueryError Json :=
  if Http.isSuccess response.status then
    match response.body with
    | .error failure => .error (.http failure)
    | .ok bytes =>
      match ofBytes? bytes with
      | none => .error (.json .malformed)
      | some text =>
        match Json.parse text.toList with
        | .ok value => .ok value
        | .error fault => .error (.json fault)
  else .error (.requestFailed response.status (excerpt response.bodyText))

/-- Sends a query about a schema. -/
def send (client : QueryRouterClient) (method : Http.Method) (endpoint : String) (schema : Uuid)
    (body : Option QueryBody) : Work (Except QueryError Json) := do
  let headers := ("schema_id", schema.text) ::
    (if body.isSome then [("content-type", "application/json")] else [])
  let text := match body with
    | some body => body.text
    | none => ""
  match ← Http.send method (client.baseUrl ++ endpoint) [] headers text with
  | .error failure => return .error (.http failure)
  | .ok response => return answer response

/-- Asks for an object. -/
def single (client : QueryRouterClient) (schema object : Uuid) (body : QueryBody) :
    Work (Except QueryError Json) :=
  client.send .post ("/single/" ++ object.text) schema (some body)

/-- Asks for several objects. -/
def multiple (client : QueryRouterClient) (schema : Uuid) (objects : List Uuid) :
    Work (Except QueryError Json) :=
  client.send .get ("/multiple/" ++ joined "," (objects.map Uuid.text)) schema none

/-- Asks for all objects of a schema. -/
def bySchema (client : QueryRouterClient) (schema : Uuid) : Work (Except QueryError Json) :=
  client.send .get "/schema" schema none

/-- Asks with a statement. -/
def raw (client : QueryRouterClient) (schema : Uuid) (statement : String) :
    Work (Except QueryError Json) :=
  client.send .post "/raw" schema (some (.raw statement))

end QueryRouterClient

end Testbed
