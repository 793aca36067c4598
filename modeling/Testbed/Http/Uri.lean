/-
This file checks URIs of two forms: with a scheme and an authority, behind which a path and a query
may stand, or a path alone. A fragment at the end is left out unread.
-/

import Testbed.Text.Blank
import Testbed.Text.Excerpt

namespace Testbed.Http

/-- A character that stands in an authority as it is. -/
def isUriCharacter (character : Char) : Bool :=
  character.isAlphanum
    || ['!', '#', '$', '&', '\x27', '(', ')', '*', '+', ',', '-', '.', '/', ':', ';', '=', '?', '@',
      '[', ']', '_', '~'].contains character

/-- A character of a scheme. -/
def isSchemeCharacter (character : Char) : Bool :=
  character.isAlphanum || ['+', '-', '.', '~'].contains character

/-- Where an authority ends. -/
def endsAuthority (character : Char) : Bool :=
  character = '/' || character = '?' || character = '#'

/-- What was seen of an authority. -/
structure AuthorityScan where
  colons : Nat := 0
  isOpened : Bool := false
  isClosed : Bool := false
  hasPercent : Bool := false
  endsInAt : Bool := false

/-- Looks at a character of an authority. -/
def AuthorityScan.next (scan : AuthorityScan) (character : Char) : Option AuthorityScan :=
  let scan := { scan with endsInAt := false }
  if character = ':' then
    if 8 ≤ scan.colons then none else some { scan with colons := scan.colons + 1 }
  else if character = '[' then
    if scan.hasPercent || scan.isOpened then none else some { scan with isOpened := true }
  else if character = ']' then
    if scan.isOpened && !scan.isClosed then
      some { scan with isClosed := true, colons := 0, hasPercent := false }
    else none
  else if character = '@' then
    some { scan with colons := 0, hasPercent := false, endsInAt := true }
  else if character = '%' then some { scan with hasPercent := true }
  else if isUriCharacter character then some scan
  else none

/-- Whether what was seen is an authority: brackets in a pair, at most one colon for the port, and a
host behind the name. -/
def AuthorityScan.isValid (scan : AuthorityScan) : Bool :=
  scan.isOpened == scan.isClosed && scan.colons ≤ 1 && !scan.endsInAt && !scan.hasPercent

/-- Whether a text is an authority. -/
def isAuthority (text : List Char) : Bool :=
  match text.foldlM AuthorityScan.next {} with
  | some scan => scan.isValid
  | none => false

/-- A character that stands in a path as it is. -/
def isPathCharacter (character : Char) : Bool :=
  0x21 ≤ character.toNat && !(['<', '>', '\x60'].contains character)

/-- A character that stands in a query as it is. -/
def isQueryCharacter (character : Char) : Bool :=
  0x21 ≤ character.toNat && !(['"', '<', '>'].contains character)

/-- Whether a text is a path with an optional query, behind which a fragment is left out. -/
def isPathAndQuery (text : List Char) : Bool :=
  let whole := text.takeWhile (· ≠ '#')
  (whole.takeWhile (· ≠ '?')).all isPathCharacter
    && ((whole.dropWhile (· ≠ '?')).drop 1).all isQueryCharacter

/-- The most characters of a scheme. -/
def schemeLimit : Nat := 64

/-- The text behind the scheme of a URI, if it has one. -/
def behindScheme? (text : List Char) : Option (List Char) :=
  let scheme := text.takeWhile isSchemeCharacter
  match text.drop scheme.length with
  | ':' :: '/' :: '/' :: rest =>
    if scheme.length ≤ schemeLimit ∧ 3 < text.length then some rest else none
  | _ => none

/-- The most bytes of a URI. -/
def uriLimit : Nat := 65534

/-- Whether a text is a URI: a host stands behind a scheme, or the text begins with a slash. -/
def isUri (text : List Char) : Bool :=
  Text.byteCount text ≤ uriLimit && match text with
    | '/' :: _ => isPathAndQuery text
    | text =>
      match behindScheme? text with
      | none => false
      | some rest =>
        let authority := rest.takeWhile (!endsAuthority ·)
        !authority.isEmpty && isAuthority authority
          && isPathAndQuery (rest.dropWhile (!endsAuthority ·))

end Testbed.Http
