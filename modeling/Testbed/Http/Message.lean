/-
This file defines HTTP requests, the responses to them, and the ways in which a request fails
before a whole response is there.
-/

import Testbed.Http.Url

namespace Testbed.Http

/-- The methods that are used. -/
inductive Method where
  | get
  | post
  deriving DecidableEq, Repr

/-- A request. -/
structure Request where
  method : Method
  url : Url
  headers : List (String × String)
  body : String

/-- Where a request failed. -/
inductive Stage where
  /-- The request could not be built: its URL is unusable. -/
  | builder
  /-- No connection was made. -/
  | connect
  /-- The connection broke before a response. -/
  | request
  /-- The body of the response could not be read. -/
  | decode
  deriving DecidableEq, Repr

/-- A failed request. -/
structure Failure where
  stage : Stage
  /-- The URL of the request, if it has one. -/
  url : Option String
  deriving DecidableEq, Repr

/-- The words for a failed request. -/
def Failure.message (failure : Failure) : String :=
  (match failure.stage with
    | .builder => "builder error"
    | .connect => "error sending request"
    | .request => "error sending request"
    | .decode => "error decoding response body")
  ++ (match failure.url with
    | some url => " for url (" ++ url ++ ")"
    | none => "")

/-- A response: its status, and its body unless that broke off. -/
structure Response where
  status : UInt16
  body : Except Failure (List UInt8)

/-- Whether a status tells of success. -/
def isSuccess (status : UInt16) : Bool :=
  200 ≤ status && status < 300

/-- The body of a response as text, read lossily; a body that broke off is empty. -/
def Response.bodyText (response : Response) : String :=
  match response.body with
  | .ok bytes => Text.lossy bytes
  | .error _ => ""

/-- The failure of a request whose URL is unusable. -/
def Failure.ofUrlFault : UrlFault → Failure
  | .malformed => { stage := .builder, url := none }
  | .unsuitable url => { stage := .builder, url := some url }

end Testbed.Http
