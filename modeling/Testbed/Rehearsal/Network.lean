/-
This file defines why a connection fails on a machine without network. The address is a host and a
port. A host that is an address itself, or the name of the machine, is known without asking a server
of names, and then there is no way to it; any other name would have to be looked up, and no server
answers; and what cannot be a name is not even asked for.
-/

import Testbed.Internet.Address6
import Testbed.Text.Numeral

namespace Testbed.Rehearsal

open Internet Text

/-- Why a connection fails. -/
inductive ConnectFault where
  /-- The address has no port. -/
  | noPort
  /-- The port is no number of a port. -/
  | invalidPort
  /-- The host cannot be handed to the system. -/
  | unusableHost
  /-- No network leads to the host. -/
  | unreachable
  /-- The machine has no address of the kind that the host has. -/
  | noSource
  /-- The address holds on one link only, and none is named. -/
  | noLink
  /-- No server of names answers. -/
  | unanswered
  /-- The host is not a name. -/
  | unknownName
  deriving DecidableEq, Repr

/-- The words for a failed connection. -/
def ConnectFault.message : ConnectFault → String
  | noPort => "invalid socket address"
  | invalidPort => "invalid port value"
  | unusableHost => "file name contained an unexpected NUL byte"
  | unreachable => "Network is unreachable (os error 101)"
  | noSource => "Cannot assign requested address (os error 99)"
  | noLink => "Invalid argument (os error 22)"
  | unanswered => "failed to lookup address information: Temporary failure in name resolution"
  | unknownName => "failed to lookup address information: Name or service not known"

namespace ConnectFault

/-! ### Addresses -/

/-- The failure of a connection to an address of eight groups, on the link of a number if that is
not zero. -/
def ofAddress6 (address : Address6) (link : Nat) : ConnectFault :=
  if address.isMapped || address.isMulticast then unreachable
  else if address.isLinkLocal && link == 0 then noLink
  else noSource

/-- The most that the number of a link can be. -/
def greatestLink : Nat := 0xFFFFFFFF

/-- The number of a link that is written in decimal digits. -/
def linkNumber? (digits : List Char) : Option Nat :=
  if digits.isEmpty then none else (numberIn? 10 digits).filter (· ≤ greatestLink)

/-- The name of the only link. -/
def linkName : List Char := ['l', 'o']

/-- The number of a link that is named behind a percent sign. Where an address holds on one link
only, the name of the link will do. -/
def link? (address : Address6) (text : List Char) : Option Nat :=
  match text with
  | [] => some 0
  | _ :: name =>
    let holdsOnLink := address.isLinkLocal || address.firstGroup &&& 0xFF0F == 0xFF02
    if holdsOnLink && name == linkName then some 1 else linkNumber? name

/-- Splits a text before the first percent sign. -/
def splitLink (text : List Char) : List Char × List Char :=
  (text.takeWhile (· ≠ '%'), text.dropWhile (· ≠ '%'))

/-- The failure of a connection to a host that is an address of eight groups. -/
def ofHost6? (host : List Char) : Option ConnectFault := do
  let (groups, link) := splitLink host
  let address ← Address6.ofText? groups
  return ofAddress6 address (← link? address link)

/-- Whether a host is an address of four bytes. A hexadecimal number has digits here. -/
def isHost4 (host : List Char) : Bool :=
  let labels := splitAt '.' host
  labels.all (fun label => label.map Char.toLower ≠ ['0', 'x'])
    && (Address4.ofLooseNumbers? labels).isSome

/-! ### Names -/

/-- The name of the machine itself. -/
def machineName : List Char := ['l', 'o', 'c', 'a', 'l', 'h', 'o', 's', 't']

/-- The most characters of a part of a name. -/
def labelLimit : Nat := 63

/-- The most characters of a name. -/
def nameLimit : Nat := 253

/-- A character of a name. -/
def isNameCharacter (character : Char) : Bool :=
  character.isAlphanum || character = '-' || character = '_'

/-- Whether a text can be a name: parts between points, with one more point at the end at most. -/
def isName (text : List Char) : Bool :=
  let name := if text.getLast? = some '.' then text.dropLast else text
  let labels := splitAt '.' name
  text == ['.'] || (text.head? ≠ some '-' && name.length ≤ nameLimit
    && labels.all fun label =>
      !label.isEmpty && label.length ≤ labelLimit && label.all isNameCharacter)

/-- The failure of a connection to a host. -/
def ofHost (host : List Char) : ConnectFault :=
  if host.contains '\x00' then unusableHost
  else if isHost4 host || host.map Char.toLower == machineName then unreachable
  else match ofHost6? host with
    | some fault => fault
    | none => if isName host then unanswered else unknownName

/-! ### Hosts with ports -/

/-- The greatest number of a port. -/
def greatestPort : Nat := 0xFFFF

/-- The port and the host of an address, which the last colon parts. -/
def hostAndPort? (address : List Char) : Option (List Char × List Char) :=
  let port := address.reverse.takeWhile (· ≠ ':')
  match address.reverse.drop port.length with
  | _ :: host => some (host.reverse, port.reverse)
  | [] => none

/-- The failure of a connection to an address of eight groups in brackets. The link has a number,
and the port has no sign. -/
def ofBrackets? (host port : List Char) : Option ConnectFault :=
  match host, port with
  | '[' :: rest, first :: _ => do
    let (groups, link) := splitLink rest.dropLast
    let address ← Address6.ofText? groups
    let number ← if link.isEmpty then some 0 else linkNumber? (link.drop 1)
    if rest.getLast? = some ']' && first ≠ '+' then return ofAddress6 address number else none
  | _, _ => none

/-- Why a connection to an address fails. -/
def ofText (address : String) : ConnectFault :=
  match hostAndPort? address.toList with
  | none => noPort
  | some (host, port) =>
    if (numeral greatestPort (String.ofList port)).isOk then
      (ofBrackets? host port).getD (ofHost host)
    else invalidPort

end ConnectFault

end Testbed.Rehearsal
