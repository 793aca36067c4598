/-
This file writes series to the series store, exports, queries and deletes them.
-/

import Testbed.Http.Client
import Testbed.Series.Export
import Testbed.Series.Query

namespace Testbed

/-- Why a request to the series store failed. -/
inductive SeriesError where
  | http (failure : Http.Failure)
  /-- The store answered with an error. -/
  | requestFailed (endpoint : String) (status : UInt16) (body : String)
  | queryFailed (cause : String)
  /-- The export is not read. -/
  | json (fault : Json.Fault)
  deriving DecidableEq, Repr

/-- The words for a failed request. -/
def SeriesError.message : SeriesError → String
  | http failure => "HTTP request failed: " ++ failure.message
  | requestFailed endpoint status body =>
    "Request to " ++ endpoint ++ " failed with status " ++ toString status.toNat ++ ": " ++ body
  | queryFailed cause => "Query failed: " ++ cause
  | json fault => "JSON deserialization failed: " ++ fault.message

/-- The series store under its URL. -/
structure SeriesStore where
  baseUrl : String
  deriving DecidableEq, Repr

namespace SeriesStore

/-- The series store under a URL, whose slashes at the end do not count. -/
def atUrl (url : String) : SeriesStore where
  baseUrl := Text.dropTrailing '/' url

/-- The series store under a URL, with a client for the requests to it. -/
def openAt (url : String) : Work (Except SeriesError SeriesStore) := do
  match ← Http.openClient with
  | .error failure => return .error (.http failure)
  | .ok () => return .ok (atUrl url)

/-- The selector of every series. -/
def everySeries : String := "\x7b__name__!=\"\"\x7d"

/-- Sends a request to an endpoint. A response that does not tell of success is an error, with the
body of the response as far as an error shows it. -/
def send (store : SeriesStore) (method : Http.Method) (endpoint : String)
    (parameters : List (String × String)) (body : String) :
    Work (Except SeriesError Http.Response) := do
  match ← Http.send method (store.baseUrl ++ endpoint) parameters [] body with
  | .error failure => return .error (.http failure)
  | .ok response =>
    if Http.isSuccess response.status then return .ok response
    return .error (.requestFailed endpoint response.status (Text.excerpt response.bodyText))

/-- Whether the store answers. -/
def health (store : SeriesStore) : Work (Except SeriesError Unit) := do
  match ← store.send .get "/health" [] "" with
  | .error error => return .error error
  | .ok _ => return .ok ()

/-- Writes lines of samples. -/
def writeLines (store : SeriesStore) (lines : List String) : Work (Except SeriesError Unit) := do
  match ← store.send .post "/write" [] ("\n".intercalate lines) with
  | .error error => return .error error
  | .ok _ =>
    note .debug "lake.env" "Wrote series lines" [("lines", .number lines.length)]
    return .ok ()

/-- Exports the series that a selector matches. -/
def exportMatching (store : SeriesStore) (selector : String) :
    Work (Except SeriesError (List ExportedSeries)) := do
  match ← store.send .get "/api/v1/export" [("match[]", selector)] "" with
  | .error error => return .error error
  | .ok response =>
    match response.body with
    | .error failure => return .error (.http failure)
    | .ok bytes =>
      match parseExport (Text.lossy bytes).toList with
      | .error fault => return .error (.json fault)
      | .ok series => return .ok series

/-- Exports every series. -/
def exportAll (store : SeriesStore) : Work (Except SeriesError (List ExportedSeries)) :=
  store.exportMatching everySeries

/-- The parameters of a query over a range of time. A step takes a second at least. -/
def rangeParameters (query : String) (start finish : Timestamp) (step : Duration) :
    List (String × String) :=
  [("query", query), ("start", String.ofList (Decimal.text start.seconds)),
    ("end", String.ofList (Decimal.text finish.seconds)),
    ("step", toString (max step.seconds 1) ++ "s")]

/-- The response to a query in bytes. -/
def queryResponse (response : Http.Response) (url : Option String) :
    Except SeriesError QueryResponse :=
  match response.body with
  | .error failure => .error (.http failure)
  | .ok bytes =>
    match (Text.ofBytes? bytes).map fun text => Json.readAll QueryResponse.read text.toList with
    | some (.ok answer) =>
      if answer.status = "success" then .ok answer
      else .error (.queryFailed ("Query status: " ++ answer.status))
    | _ => .error (.http { stage := .decode, url })

/-- Queries a range of time. -/
def queryRange (store : SeriesStore) (query : String) (start finish : Timestamp) (step : Duration) :
    Work (Except SeriesError QueryResponse) := do
  let parameters := rangeParameters query start finish step
  match ← store.send .get "/api/v1/query_range" parameters "" with
  | .error error => return .error error
  | .ok response =>
    let url := match Http.destination (store.baseUrl ++ "/api/v1/query_range") parameters with
      | .ok url => some url.text
      | .error _ => none
    return queryResponse response url

/-- Deletes every series. -/
def deleteAll (store : SeriesStore) : Work (Except SeriesError Unit) := do
  match ← store.send .post "/api/v1/admin/tsdb/delete_series" [("match[]", everySeries)] "" with
  | .error error => return .error error
  | .ok _ =>
    note .debug "lake.env" "Deleted all series" []
    return .ok ()

end SeriesStore

end Testbed
