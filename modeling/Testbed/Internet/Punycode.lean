/-
This file writes the parts of domain names in a code of ASCII letters and digits, and reads it. In
front of the last dash stand the ASCII characters of a part. Behind it stands where the others go,
in the order of their code points and then of their places: each is counted on from the one before
in digits of thirty-six, of which the first that is below a threshold is the last. The thresholds
follow the size of what was counted before.
-/

import Testbed.Text.Blank

namespace Testbed.Internet.Punycode

/-! ### Digits -/

/-- A digit as it is written. -/
def digitCharacter (digit : Nat) : Char :=
  Char.ofNat (if digit < 26 then 'a'.toNat + digit else '0'.toNat + (digit - 26))

/-- The value of a digit. -/
def digitValue? (character : Char) : Option Nat :=
  if 'a' ≤ character ∧ character ≤ 'z' then some (character.toNat - 'a'.toNat)
  else if '0' ≤ character ∧ character ≤ '9' then some (character.toNat - '0'.toNat + 26)
  else none

/-- A digit has the value that it is written for. -/
theorem digitValue?_digitCharacter :
    ∀ digit < 36, digitValue? (digitCharacter digit) = some digit := by
  decide

/-- The threshold of a place. -/
def threshold (place bias : Nat) : Nat :=
  min 26 (max 1 (place - bias))

theorem threshold_pos (place bias : Nat) : 0 < threshold place bias := by
  unfold threshold
  omega

theorem threshold_le (place bias : Nat) : threshold place bias ≤ 26 := by
  unfold threshold
  omega

/-- The digits of a count from a place on. -/
def digits (bias place count : Nat) : List Char :=
  let least := threshold place bias
  if count < least then [digitCharacter count]
  else
    digitCharacter (least + (count - least) % (36 - least))
      :: digits bias (place + 36) ((count - least) / (36 - least))
termination_by count
decreasing_by
  have := threshold_pos place bias
  have := Nat.div_le_self (count - threshold place bias) (36 - threshold place bias)
  omega

/-- The bias at first. -/
def firstBias : Nat := 72

/-- The place of the first digit. -/
def firstPlace : Nat := 36

/-- Divides what was counted until it is small: the places that this takes, and what is left. -/
def shrink (count : Nat) : Nat × Nat :=
  if 455 < count then
    let (places, rest) := shrink (count / 35)
    (places + 36, rest)
  else (0, count)
termination_by count

/-- The bias behind a count, with so many characters put in their places. -/
def nextBias (count characters : Nat) (isFirst : Bool) : Nat :=
  let damped := if isFirst then count / 700 else count / 2
  let (places, rest) := shrink (damped + damped / characters)
  places + 36 * rest / (rest + 38)

/-! ### Writing -/

/-- How far a part was written. -/
structure Writing where
  /-- The digits, the latest first. -/
  written : List Char := []
  /-- The number of characters that were written. -/
  handled : Nat
  /-- What was counted on since the latest character. -/
  count : Nat := 0
  bias : Nat := firstBias
  isFirst : Bool := true

namespace Writing

/-- Passes a character while those of a code point are written. -/
def pass (codePoint : Nat) (writing : Writing) (other : Nat) : Writing :=
  if other < codePoint then { writing with count := writing.count + 1 }
  else if other = codePoint then
    { written := (digits writing.bias firstPlace writing.count).reverse ++ writing.written
      handled := writing.handled + 1
      count := 0
      bias := nextBias writing.count (writing.handled + 1) writing.isFirst
      isFirst := false }
  else writing

/-- Writes the characters of ascending code points, from a code point on. -/
def writeFrom (text : List Nat) : (start : Nat) → List Nat → Writing → Writing
  | _, [], writing => writing
  | start, codePoint :: rest, writing =>
    let ahead :=
      { writing with count := writing.count + (codePoint - start) * (writing.handled + 1) }
    let passed := text.foldl (pass codePoint) ahead
    writeFrom text (codePoint + 1) rest { passed with count := passed.count + 1 }

end Writing

/-- The first code point that is not written as itself. -/
def firstCode : Nat := 0x80

/-- The code of a part. -/
def encode (text : List Nat) : List Char :=
  let plain := text.filter (· < firstCode)
  let others := (text.filter (firstCode ≤ ·)).mergeSort.eraseDups
  let writing := Writing.writeFrom text firstCode others { handled := plain.length }
  plain.map Char.ofNat ++ (if plain.isEmpty then [] else ['-']) ++ writing.written.reverse

/-! ### Reading -/

/-- How far a code was read. -/
structure Reading where
  text : List Nat
  codePoint : Nat := firstCode
  /-- Where counting on began. -/
  start : Nat := 0
  /-- How far it was counted on. -/
  reached : Nat := 0
  /-- What a digit of the next place counts. -/
  weight : Nat := 1
  place : Nat := firstPlace
  bias : Nat := firstBias

namespace Reading

/-- What no count and no weight reaches. -/
def countLimit : Nat := 0x100000000

/-- The text with the code point that was counted to in its place. -/
def put (reading : Reading) : Option Reading :=
  let characters := reading.text.length + 1
  let codePoint := reading.codePoint + reading.reached / characters
  let index := reading.reached % characters
  if codePoint.isValidChar then
    some
      { text := reading.text.insertIdx index codePoint
        codePoint
        start := index + 1
        reached := index + 1
        bias := nextBias (reading.reached - reading.start) characters (reading.start == 0) }
  else none

/-- Reads a digit. -/
def next (reading : Reading) (character : Char) : Option Reading := do
  let digit ← digitValue? character
  let reached := reading.reached + digit * reading.weight
  let least := threshold reading.place reading.bias
  let weight := reading.weight * (36 - least)
  if countLimit ≤ reached then none
  else if digit < least then put { reading with reached }
  else if countLimit ≤ weight then none
  else return { reading with reached, weight, place := reading.place + 36 }

end Reading

/-- The part that a code stands for. Nothing but ASCII characters has no code, and where none of
them stands in front, there is no dash. -/
def decode? (code : List Char) : Option (List Nat) := do
  let behindDash := (code.reverse.takeWhile (· ≠ '-')).reverse
  let plain := code.take (code.length - behindDash.length - 1)
  let digits := if plain.isEmpty then code else behindDash
  let reading ← digits.foldlM Reading.next { text := plain.map Char.toNat }
  if !digits.isEmpty ∧ reading.place = firstPlace then return reading.text else none

end Testbed.Internet.Punycode
