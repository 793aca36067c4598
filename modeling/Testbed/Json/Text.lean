/-
This file writes JSON values as compact text: no spaces, members in the order of their keys, and in
strings an escape for the quotation mark, the backslash and the control characters only.
-/

import Testbed.Json.Basic
import Testbed.Decimal.Notation

namespace Testbed.Json

/-- The hexadecimal digit of a number below sixteen. -/
def hexDigit (number : Nat) : Char :=
  Nat.digitChar number

/-- A character as it stands in a JSON string. -/
def escaped (character : Char) : List Char :=
  if character = '"' then ['\\', '"']
  else if character = '\\' then ['\\', '\\']
  else if character = '\x08' then ['\\', 'b']
  else if character = '\x0c' then ['\\', 'f']
  else if character = '\n' then ['\\', 'n']
  else if character = '\r' then ['\\', 'r']
  else if character = '\t' then ['\\', 't']
  else if character.toNat < 0x20 then
    ['\\', 'u', '0', '0', hexDigit (character.toNat / 16), hexDigit (character.toNat % 16)]
  else [character]

/-- The text of a string. -/
def stringText (value : String) : List Char :=
  '"' :: (value.toList.flatMap escaped ++ ['"'])

/-- The text of an integer. -/
def integerText (value : Int) : List Char :=
  if value < 0 then '-' :: Decimal.digitsOf value.natAbs else Decimal.digitsOf value.natAbs

/-- The text of a number. -/
def numberText : Number → List Char
  | .integer value => integerText value.value
  | .double value => Decimal.text value

mutual

/-- The compact text of a value, as characters. -/
def characters : Json → List Char
  | null => ['n', 'u', 'l', 'l']
  | bool true => ['t', 'r', 'u', 'e']
  | bool false => ['f', 'a', 'l', 's', 'e']
  | number value => numberText value
  | string value => stringText value
  | array elements => '[' :: (elementsText elements ++ [']'])
  | object members => '\x7b' :: (membersText members ++ ['\x7d'])

/-- The texts of the elements with commas between them. -/
def elementsText : List Json → List Char
  | [] => []
  | [element] => characters element
  | element :: next :: rest => characters element ++ ',' :: elementsText (next :: rest)

/-- The texts of the members with commas between them. -/
def membersText : List (String × Json) → List Char
  | [] => []
  | [(key, value)] => stringText key ++ ':' :: characters value
  | (key, value) :: next :: rest =>
    stringText key ++ ':' :: (characters value ++ ',' :: membersText (next :: rest))

end

/-- The compact text of a value. -/
def compact (value : Json) : String :=
  String.ofList (characters value)

end Testbed.Json
