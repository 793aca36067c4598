/-
This file sends requests. A URL that is unusable fails before anything is sent: it has to name a
host, to have one of the schemes that requests are sent by, and to be a URI as well. A name and a
password are taken out of the URL before.
-/

import Testbed.Http.Uri
import Testbed.Http.Url.Reader
import Testbed.Outside

namespace Testbed.Http

/-- The schemes that requests are sent by. -/
def requestSchemes : List String := ["http", "https"]

/-- The URL to which a request goes, with the parameters added to it. -/
def destination (url : String) (parameters : List (String × String)) : Except UrlFault Url :=
  match Url.ofText? url with
  | none => .error .malformed
  | some named =>
    let complete :=
      (if parameters.isEmpty then named else named.withParameters parameters).withoutCredentials
    if !named.hasHost then .error (.unsuitable named.text)
    else if requestSchemes.contains complete.scheme && isUri complete.text.toList then .ok complete
    else .error (.unsuitable complete.text)

/-- The time that a request may take. -/
def requestLimit : Duration := .ofSeconds 10

/-- Makes a client for requests. -/
def openClient : Work (Except Failure Unit) :=
  ask (.openClient requestLimit)

/-- Sends a request to a URL with parameters, and waits for the response. -/
def send (method : Method) (url : String) (parameters : List (String × String))
    (headers : List (String × String)) (body : String) : Work (Except Failure Response) :=
  match destination url parameters with
  | .error fault => return .error (.ofUrlFault fault)
  | .ok url => ask (.request { method, url, headers, body })

end Testbed.Http
