/-
This file reads the hosts of URLs into their normal form. In brackets stands an address of eight
groups. Where the scheme is one of the web, a host is else a domain name, which is decoded and
written in ASCII, or an address of four bytes, if its last part is a number. Other schemes take a
host as it is written.
-/

import Testbed.Http.Url.Percent
import Testbed.Internet.Address6
import Testbed.Internet.Domain

namespace Testbed.Url

open Internet Text

/-- The address between brackets, with the brackets. -/
def bracketed? (text : List Char) : Option String :=
  if text.getLast? = some ']' then
    (Address6.ofText? text.dropLast).map fun address => "[" ++ address.text ++ "]"
  else none

/-- Whether a host is written like an address of four bytes: its last part is a number. -/
def endsInNumber (labels : List (List Char)) : Bool :=
  match labels.getLast? with
  | some label =>
    !label.isEmpty && (label.all Char.isDigit
      || (label.take 2 = ['0', 'x'] && (Address4.looseNumber? label).isSome))
  | none => false

/-- The normal form of a name or of an address of four bytes. -/
def named? (text : List Char) : Option String := do
  let decoded ← percentDecoded? text
  let name ← asciiName? decoded.toList
  let labels := splitAt '.' name
  let meaningful := if labels.getLast? = some [] then labels.dropLast else labels
  if name.isEmpty then none
  else if endsInNumber meaningful then (Address4.ofLooseNumbers? meaningful).map Address4.text
  else return String.ofList name

/-- The host of a URL of the web. -/
def webHost? : List Char → Option String
  | '[' :: rest => bracketed? rest
  | text => named? text

/-- The characters that no host of another scheme holds. -/
def refusedInHost : List Char :=
  ['\x00', '\t', '\n', '\r', ' ', '#', '/', ':', '<', '>', '?', '@', '[', '\\', ']', '^', '|']

/-- The host of a URL of another scheme. -/
def otherHost? : List Char → Option String
  | '[' :: rest => bracketed? rest
  | text =>
    if text.any refusedInHost.contains then none
    else some (String.ofList (percentEncoded (isPlainExcept []) text))

/-- The host of a file. The machine itself needs no name. -/
def fileHost? (text : List Char) : Option String :=
  if text.isEmpty then some ""
  else (webHost? text).map fun host => if host = "localhost" then "" else host

end Testbed.Url
