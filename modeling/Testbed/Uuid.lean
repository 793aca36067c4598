/-
This file defines universally unique identifiers of 128 bits. They are written as 32 hexadecimal
digits in lower case with hyphens between the groups, and are read in that form, without the
hyphens, in braces, or as a uniform resource name, with digits of either case.
-/

import Testbed.Json.Reader

namespace Testbed

/-- An identifier. -/
structure Uuid where
  bits : BitVec 128
  deriving DecidableEq

namespace Uuid

/-- The digits of the identifier, the highest first. -/
def digits (identifier : Uuid) : List Char :=
  (List.range 32).map fun index =>
    Nat.digitChar ((identifier.bits.extractLsb' (4 * (31 - index)) 4).toNat)

/-- The digits with hyphens between the groups. -/
def hyphenated (digits : List Char) : List Char :=
  digits.take 8 ++ '-' :: ((digits.drop 8).take 4 ++ '-' :: ((digits.drop 12).take 4
    ++ '-' :: ((digits.drop 16).take 4 ++ '-' :: digits.drop 20)))

/-- The text of an identifier. -/
def text (identifier : Uuid) : String :=
  String.ofList (hyphenated identifier.digits)

/-- The number of hexadecimal digits. -/
def hexadecimal? (digits : List Char) : Option Nat :=
  digits.foldlM (fun value digit => (Json.hexValue? digit).map (value * 16 + ·)) 0

/-- Reads 32 digits. -/
def ofDigits? (digits : List Char) : Option Uuid :=
  if digits.length = 32 then (hexadecimal? digits).map fun value => ⟨BitVec.ofNat 128 value⟩
  else none

/-- Reads digits with hyphens between the groups. -/
def ofHyphenated? (text : List Char) : Option Uuid :=
  let digits := text.filter (· ≠ '-')
  if text.length = 36 ∧ text = hyphenated digits then ofDigits? digits else none

/-- The text in front of an identifier that is a uniform resource name. -/
def resourceName : List Char := ['u', 'r', 'n', ':', 'u', 'u', 'i', 'd', ':']

/-- Reads an identifier. -/
def parse? (text : String) : Option Uuid :=
  let characters := text.toList
  if characters.length = 32 then ofDigits? characters
  else if characters.length = 36 then ofHyphenated? characters
  else if characters.length = 38 then
    if characters.head? = some '\x7b' ∧ characters.getLast? = some '\x7d' then
      ofHyphenated? (characters.drop 1).dropLast
    else none
  else if characters.length = 45 then
    if (characters.take 9).map Char.toLower = resourceName then ofHyphenated? (characters.drop 9)
    else none
  else none

/-- Reads an identifier from a JSON string. -/
def read : Json.Reader Uuid := fun depth text =>
  Json.refine parse? (Json.readString depth text)

end Uuid

end Testbed
