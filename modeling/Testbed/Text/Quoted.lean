/-
This file defines the quoted form of a text, in which it can be shown on one line: quotation marks
around it, and every character that is not printable or that would attach to its neighbour spelled
out.
-/

import Testbed.Text.Printable
import Testbed.Text.Combining

namespace Testbed.Text

/-- The digits of a number in lower-case hexadecimal. -/
def hexadecimal (number : Nat) : List Char :=
  Nat.toDigits 16 number

/-- The number of a character between braces, behind a backslash. -/
def spelledOut (character : Char) : List Char :=
  '\\' :: 'u' :: '\x7b' :: (hexadecimal character.toNat ++ ['\x7d'])

/-- A character as it stands in a quoted text. The single quote stands for itself. -/
def quotedCharacter (character : Char) : List Char :=
  if character = '"' then ['\\', '"']
  else if character = '\\' then ['\\', '\\']
  else if character = '\n' then ['\\', 'n']
  else if character = '\r' then ['\\', 'r']
  else if character = '\t' then ['\\', 't']
  else if character = '\x00' then ['\\', '0']
  else if isCombining character then spelledOut character
  else if isPrintable character then [character]
  else spelledOut character

/-- The quoted form of a text. -/
def quoted (text : String) : String :=
  String.ofList ('"' :: (text.toList.flatMap quotedCharacter ++ ['"']))

end Testbed.Text
