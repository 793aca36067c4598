/-
This file reads typed values out of JSON values. Nothing is read where a value is missing, is of
another type or lies outside the range of its type. An optional member may be absent or null.
-/

import Testbed.Text.Hex
import Testbed.Time.Duration
import Testbed.Uuid

namespace Testbed

/-- A way to read values of a type. -/
abbrev Decode (Value : Type) := Json → Option Value

namespace Decode

variable {Value First Second : Type}

/-- A string. -/
def string : Decode String
  | .string text => some text
  | _ => none

/-- A truth value. -/
def bool : Decode Bool
  | .bool value => some value
  | _ => none

/-- The elements of an array. -/
def list : Decode (List Json)
  | .array elements => some elements
  | _ => none

/-- The members of an object. -/
def members : Decode (List (String × Json))
  | .object members => some members
  | _ => none

/-- A whole number. -/
def int : Decode Int
  | .number value => value.toInt?
  | _ => none

/-- A natural number up to a greatest one. -/
def natUpTo (greatest : Nat) : Decode Nat := fun input => do
  let value ← int input
  if 0 ≤ value ∧ value ≤ greatest then some value.toNat else none

/-- A natural number of 16 bits. -/
def uint16 : Decode UInt16 := fun input =>
  (natUpTo 0xFFFF input).map UInt16.ofNat

/-- A natural number of 32 bits. -/
def uint32 : Decode UInt32 := fun input =>
  (natUpTo 0xFFFFFFFF input).map UInt32.ofNat

/-- A natural number of 64 bits. -/
def uint64 : Decode UInt64 := fun input =>
  (natUpTo 0xFFFFFFFFFFFFFFFF input).map UInt64.ofNat

/-- A signed number of 64 bits. -/
def int64 : Decode Int64
  | .number value => value.toInt64?
  | _ => none

/-- A double, which has a name where JSON has no number for it. -/
def double : Decode Float
  | .number value => some value.toDouble
  | .string "NaN" => some (0.0 / 0.0)
  | .string "inf" => some (1.0 / 0.0)
  | .string "-inf" => some (-1.0 / 0.0)
  | _ => none

/-- A list of values. -/
def listOf (element : Decode Value) : Decode (List Value) := fun input =>
  (list input).bind fun elements => elements.mapM element

/-- An array of two values. -/
def pairOf (first : Decode First) (second : Decode Second) : Decode (First × Second)
  | .array [one, two] => do return (← first one, ← second two)
  | _ => none

/-- A list of strings. -/
def strings : Decode (List String) := listOf string

/-- A list of pairs of strings. -/
def entries : Decode (List (String × String)) := listOf (pairOf string string)

/-- Bytes, written as hexadecimal digits. -/
def hex : Decode (List UInt8) := fun input =>
  (string input).bind fun text => Text.bytesOfHex? text.toList

/-- An identifier. -/
def uuid : Decode Uuid := fun input =>
  (string input).bind Uuid.parse?

/-! ### Members -/

/-- The member of a name, unless it is absent or null. -/
def given (input : Json) (name : String) : Option Json :=
  match input.get? name with
  | some .null => none
  | found => found

/-- A member that has to be there. -/
def required (value : Decode Value) (input : Json) (name : String) : Option Value :=
  (input.get? name).bind value

/-- A member that may be missing. -/
def optional (value : Decode Value) (input : Json) (name : String) : Option (Option Value) :=
  match given input name with
  | none => some none
  | some found => (value found).map some

/-- A member with a value for when it is missing. -/
def optionalOr (otherwise : Value) (value : Decode Value) (input : Json) (name : String) :
    Option Value :=
  (optional value input name).map (·.getD otherwise)

/-- A duration, given as seconds and the nanoseconds beyond them. -/
def duration : Decode Duration := fun input => do
  let seconds ← required uint64 input "secs"
  let nanoseconds ← required (natUpTo 999999999) input "nanos"
  if bound : nanoseconds < 1000000000 then some (.ofParts seconds ⟨nanoseconds, bound⟩) else none

end Decode

end Testbed
