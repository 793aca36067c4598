/-
This file reads URLs and brings them into their normal form: scheme and host in lower case, the
scheme's own port left out, dot segments resolved, and characters that may not stand in a URL
encoded by percent signs. What stands behind the scheme depends on it: the schemes of the web name a
server behind any slashes, files may have a host, and other schemes name a server behind two slashes
or have a path that is taken as it is, if it does not begin with a slash.
-/

import Testbed.Http.Url
import Testbed.Http.Url.Host
import Testbed.Http.Url.Path

namespace Testbed.Url

open Text

/-! ### Pieces of texts -/

/-- Splits a text at the first of some characters, which stays in front of the second part. -/
def splitBefore (stops : List Char) (text : List Char) : List Char × List Char :=
  (text.takeWhile fun character => !stops.contains character,
    text.dropWhile fun character => !stops.contains character)

/-- The text without blanks and controls at its ends and without line breaks and tabs. -/
def cleaned (text : List Char) : List Char :=
  let isControl (character : Char) : Bool := character.toNat ≤ 0x20
  (((text.dropWhile isControl).reverse.dropWhile isControl).reverse).filter fun character =>
    character ≠ '\n' ∧ character ≠ '\r' ∧ character ≠ '\t'

/-! ### Schemes -/

/-- The schemes of the web with their ports. -/
def webPorts : List (String × Nat) :=
  [("http", 80), ("https", 443), ("ftp", 21), ("ws", 80), ("wss", 443)]

/-- Whether a scheme is one of the web. -/
def isWeb (scheme : String) : Bool :=
  (webPorts.lookup scheme).isSome

/-- The scheme in front of a text, and the text behind its colon. -/
def scheme? (text : List Char) : Option (String × List Char) :=
  let name := text.takeWhile fun character =>
    character.isAlphanum || ['+', '-', '.'].contains character
  match name, text.drop name.length with
  | first :: _, ':' :: rest =>
    if first.isAlpha then some (String.ofList (name.map Char.toLower), rest) else none
  | _, _ => none

/-! ### Servers -/

/-- Where the name of a server ends. -/
def serverStops (scheme : String) : List Char :=
  if isWeb scheme then ['/', '?', '#', '\\'] else ['/', '?', '#']

/-- The name and the password that stand in front of the last sign, encoded. An empty password is
none. -/
def credentialsOf (text : List Char) : String × Option String :=
  let encoded (part : List Char) : String :=
    String.ofList (percentEncoded (isPlainExcept credentialSigns) part)
  let (name, password) := splitBefore [':'] text
  (encoded name, if password.length ≤ 1 then none else some (encoded (password.drop 1)))

/-- Splits a text behind its host, which ends at a colon outside brackets. -/
def splitHost (isBracketed : Bool) : List Char → List Char × List Char
  | [] => ([], [])
  | character :: rest =>
    if character = ':' ∧ !isBracketed then ([], character :: rest)
    else
      let (host, behind) := splitHost
        (if character = '[' then true else if character = ']' then false else isBracketed) rest
      (character :: host, behind)

/-- The greatest port. -/
def portLimit : Nat := 65535

/-- The port in digits: none if there is none, or if the scheme has it anyway. -/
def port? (scheme : String) (digits : List Char) : Option (Option Nat) :=
  if digits.isEmpty then some none
  else do
    let port ← (numberIn? 10 digits).filter (· ≤ portLimit)
    return if webPorts.lookup scheme = some port then none else some port

/-- Reads the server that a text names, and leaves what stands behind it. A backslash behind a port
ends it in every scheme. -/
def authority? (scheme : String) (text : List Char) : Option (Authority × List Char) := do
  let (server, tail) := splitBefore (serverStops scheme) text
  let hostText := (server.reverse.takeWhile (· ≠ '@')).reverse
  let userText := (server.take (server.length - hostText.length)).dropLast
  let (name, password) := credentialsOf userText
  let (hostPart, portPart) := splitHost false hostText
  let (digits, behindPort) := splitBefore ['\\'] (portPart.drop 1)
  let host ← if isWeb scheme then webHost? hostPart else otherHost? hostPart
  let port ← port? scheme digits
  let isNamed := !name.isEmpty || password.isSome
  let hasEmptySign := hostText.length < server.length && userText.isEmpty
    && (hostText ++ tail).head?.any (serverStops scheme).contains
  if host.isEmpty && (isNamed || !portPart.isEmpty) || hasEmptySign then none
  else return ({ name, password, host, port }, behindPort ++ tail)

/-! ### What stands behind -/

/-- The URL with the query and the fragment that stand behind its path. -/
def withTail (url : Url) (text : List Char) : Url :=
  let (query, fragment) := splitBefore ['#'] text
  let signs := if isWeb url.scheme || url.scheme == "file" then '\x27' :: querySigns else querySigns
  { url with
    query := if query.isEmpty then none
      else some (String.ofList (percentEncoded (isPlainExcept signs) (query.drop 1)))
    fragment := if fragment.isEmpty then none
      else some (String.ofList (percentEncoded (isPlainExcept fragmentSigns) (fragment.drop 1))) }

/-- Reads a URL of the web behind its scheme. -/
def ofWeb? (scheme : String) (text : List Char) : Option Url := do
  let behindSlashes := text.dropWhile fun character => character = '/' || character = '\\'
  let (authority, rest) ← authority? scheme behindSlashes
  let (path, tail) := splitBefore ['?', '#'] rest
  return withTail { scheme, authority, path := rootedPath (withSlashes path) } tail

/-- Reads a URL of another scheme behind it. -/
def ofOther? (scheme : String) (text : List Char) : Option Url :=
  match text with
  | '/' :: '/' :: server => do
    let (authority, rest) ← authority? scheme server
    let (path, tail) := splitBefore ['?', '#'] rest
    return withTail { scheme, authority, path := if path.isEmpty then "" else rootedPath path } tail
  | text =>
    let (path, tail) := splitBefore ['?', '#'] text
    let isRooted := path.head? == some '/'
    some (withTail
      { scheme
        path := if isRooted then rootedPath path
          else String.ofList (percentEncoded (isPlainExcept []) path) } tail)

/-- The host of a file and the text of its path, with slashes for backslashes. The letter of a drive
is no host. -/
def fileParts? (text : List Char) : Option (String × List Char) :=
  match text with
  | '/' :: '/' :: rest =>
    let (host, path) := splitBefore ['/'] rest
    if isDrive host then some ("", rest) else (fileHost? host).map fun host => (host, path)
  | text => some ("", text)

/-- Reads the URL of a file behind its scheme. A path with the letter of a drive has no host, and of
several slashes in front of a path one is left. -/
def ofFile? (text : List Char) : Option Url := do
  let (place, tail) := splitBefore ['?', '#'] text
  let (host, path) ← fileParts? (withSlashes place)
  let route := routeOf true (behindSlash path)
  return withTail
    { scheme := "file"
      authority := some { host := if route.hasDrive then "" else host }
      path := String.ofList ('/' :: route.path.dropWhile (· = '/')) } tail

/-- Reads a URL. -/
def ofText? (text : String) : Option Url := do
  let (scheme, rest) ← scheme? (cleaned text.toList)
  if isWeb scheme then ofWeb? scheme rest
  else if scheme = "file" then ofFile? rest
  else ofOther? scheme rest

end Testbed.Url
