/-
This file defines URLs in their normal form, their text, and what a request takes from a URL: the
path with the query, which parameters can be added to, and the name and the password, which are sent
apart from the URL.
-/

import Testbed.Http.Url.Percent

namespace Testbed

open Text

/-- The part of a URL that names a server. -/
structure Authority where
  /-- The name of who asks, encoded. -/
  name : String := ""
  /-- The password of who asks, encoded. -/
  password : Option String := none
  host : String
  /-- The port, unless it is the usual one of the scheme. -/
  port : Option Nat := none
  deriving DecidableEq

/-- A URL. -/
structure Url where
  scheme : String
  authority : Option Authority := none
  path : String
  query : Option String := none
  fragment : Option String := none
  deriving DecidableEq

/-- Why a text is not the URL of a request. -/
inductive UrlFault where
  /-- The text is no URL. -/
  | malformed
  /-- The URL is not one of a request. -/
  | unsuitable (url : String)
  deriving DecidableEq

namespace Authority

/-- The name and the password, with the sign behind them. -/
def credentials (authority : Authority) : String :=
  match authority.password with
  | some password => authority.name ++ ":" ++ password ++ "@"
  | none => if authority.name.isEmpty then "" else authority.name ++ "@"

/-- The text of the part. -/
def text (authority : Authority) : String :=
  authority.credentials ++ authority.host ++ match authority.port with
    | some port => ":" ++ toString port
    | none => ""

/-- The part without name and password, if both can be sent apart: the name has to be text, and one
of them has to be there. A password that is no text is not sent. -/
def withoutCredentials (authority : Authority) : Authority :=
  match Url.percentDecoded? authority.name.toList with
  | none => authority
  | some name =>
    let password := authority.password.bind fun password => Url.percentDecoded? password.toList
    if name.isEmpty ∧ password.isNone then authority
    else { authority with name := "", password := none }

end Authority

namespace Url

/-- A path as it stands in a URL: without a server in front, it does not begin with two slashes. -/
def pathText (url : Url) : String :=
  if url.authority.isNone && ['/', '/'].isPrefixOf url.path.toList then "/." ++ url.path
  else url.path

/-- The text of a URL. -/
def text (url : Url) : String :=
  url.scheme ++ ":"
    ++ (match url.authority with
      | some authority => "//" ++ authority.text
      | none => "")
    ++ url.pathText
    ++ (match url.query with
      | some query => "?" ++ query
      | none => "")
    ++ (match url.fragment with
      | some fragment => "#" ++ fragment
      | none => "")

/-- Whether a URL names a host. -/
def hasHost (url : Url) : Bool :=
  url.authority.any fun authority => !authority.host.isEmpty

/-- The URL without name and password, if both can be sent apart. -/
def withoutCredentials (url : Url) : Url :=
  { url with authority := url.authority.map Authority.withoutCredentials }

/-- The URL with parameters added to its query. -/
def withParameters (url : Url) (parameters : List (String × String)) : Url :=
  let added := "&".intercalate
    (parameters.map fun parameter => formEncoded parameter.1 ++ "=" ++ formEncoded parameter.2)
  { url with
    query := some (match url.query with
      | some query => if query.isEmpty then added else query ++ "&" ++ added
      | none => added) }

/-- The path and the query, as they stand in a request. -/
def target (url : Url) : String :=
  url.path ++ (match url.query with
    | some query => "?" ++ query
    | none => "")

end Url

end Testbed
