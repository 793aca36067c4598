/-
This file reads tables of code points that are written as lines. The entries of a line stand between
blanks, and code points are written in hexadecimal digits. An entry of a set is a code point, or the
first and the last of a range with a dash between them. An entry of a mapping has a colon behind
these: then come the images of consecutive code points between commas, an image being code points
between plus signs; or, behind a range, the image of its first code point, and with each step
through the range, which a slash and a number make longer than one, the image goes on as far. A
range with nothing behind the colon is left out of texts.
-/

import Testbed.Text.Blank
import Testbed.Text.Numeral

namespace Testbed.Text

/-- The entries of a table. -/
def tableEntries (table : List String) : List (List Char) :=
  table.flatMap fun line => (splitAt ' ' line.toList).filter (!·.isEmpty)

/-- A code point of a table. -/
def codePoint (digits : List Char) : Nat :=
  (numberIn? 16 digits).getD 0

/-- The first and the last code point of an entry. -/
def rangeOf (entry : List Char) : Nat × Nat :=
  match splitAt '-' entry with
  | [first, last] => (codePoint first, codePoint last)
  | _ => (codePoint entry, codePoint entry)

/-- The set that a table lays down. -/
def Ranges.ofTable (table : List String) : Ranges :=
  (tableEntries table).map rangeOf

/-- An entry of a mapping. -/
inductive Images where
  /-- The images of consecutive code points from the first one on. -/
  | listed (first : Nat) (images : List (List Nat))
  /-- The images of the code points of a range, so many apart. -/
  | shifted (first last step image : Nat)
  /-- Code points of a range, which have nothing as their image. -/
  | erased (first last : Nat)
  deriving DecidableEq, Repr

namespace Images

/-- Reads an image. -/
def imageOf (text : List Char) : List Nat :=
  if text.isEmpty then [] else (splitAt '+' text).map codePoint

/-- Reads an entry. -/
def ofEntry (entry : List Char) : Images :=
  let place := entry.takeWhile (· ≠ ':')
  let images := entry.drop (place.length + 1)
  if place.contains '-' then
    let (range, step) := (place.takeWhile (· ≠ '/'), (place.dropWhile (· ≠ '/')).drop 1)
    let (first, last) := rangeOf range
    if images.isEmpty then .erased first last
    else .shifted first last (if step.isEmpty then 1 else codePoint step) (codePoint images)
  else .listed (codePoint place) ((splitAt ',' images).map imageOf)

/-- The image of a code point, if the entry has one. -/
def image? : Images → Nat → Option (List Nat)
  | .listed first images, codePoint =>
    if first ≤ codePoint then images[codePoint - first]? else none
  | .shifted first last step image, codePoint =>
    if first ≤ codePoint ∧ codePoint ≤ last ∧ (codePoint - first) % step = 0 then
      some [image + (codePoint - first)]
    else none
  | .erased first last, codePoint => if first ≤ codePoint ∧ codePoint ≤ last then some [] else none

end Images

/-- A mapping of code points to texts. -/
abbrev Mapping := List Images

namespace Mapping

/-- The mapping that a table lays down. -/
def ofTable (table : List String) : Mapping :=
  (tableEntries table).map Images.ofEntry

/-- The image of a code point, if the mapping has one. -/
def image? (mapping : Mapping) (codePoint : Nat) : Option (List Nat) :=
  mapping.findSome? (·.image? codePoint)

end Mapping

example : (Mapping.ofTable ["41-5A:61 DF:73+73,E0", "100-12E/2:101"]).image? 0xDF =
    some [0x73, 0x73] := by decide +kernel
example : (Mapping.ofTable ["41-5A:61 100-12E/2:101"]).image? 0x102 = some [0x103] := by
  decide +kernel
example : (Mapping.ofTable ["100-12E/2:101"]).image? 0x101 = none := by decide +kernel
example : (Mapping.ofTable ["AD: 200B-200D:"]).image? 0x200C = some [] := by decide +kernel

end Testbed.Text
