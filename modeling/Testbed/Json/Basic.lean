/-
This file defines JSON values. Integers and doubles are kept apart, integers reach from -2^63 to
2^64 - 1, and the members of an object are listed by key in ascending order without repetition.
-/

import Testbed.Sorted

namespace Testbed

/-- The integers that a JSON number holds exactly. -/
structure Integer where
  value : Int
  least_le : -0x8000000000000000 ≤ value := by decide
  lt_end : value < 0x10000000000000000 := by decide
  deriving DecidableEq

/-- The integer, if it is one that a JSON number holds exactly. -/
def Integer.ofInt? (value : Int) : Option Integer :=
  if least : -0x8000000000000000 ≤ value then
    if below : value < 0x10000000000000000 then some ⟨value, least, below⟩ else none
  else none

/-- A natural number of 64 bits. -/
def Integer.ofUInt64 (value : UInt64) : Integer where
  value := value.toNat
  least_le := by omega
  lt_end := by have := value.toNat_lt; omega

/-- A signed number of 64 bits. -/
def Integer.ofInt64 (value : Int64) : Integer where
  value := value.toInt
  least_le := by have := value.le_toInt; omega
  lt_end := by have := value.toInt_lt; omega

/-- A number: an integer, or a double for every other number. -/
inductive Number where
  | integer (value : Integer)
  | double (value : Float)

/-- Whether two numbers are equal: integers as integers, doubles as doubles, and never an integer
and a double. -/
def Number.equal : Number → Number → Bool
  | .integer first, .integer second => first.value == second.value
  | .double first, .double second => first == second
  | _, _ => false

/-- A number as a double. -/
def Number.toDouble : Number → Float
  | .integer value => Float.ofInt value.value
  | .double value => value

/-- A number as an integer, if it is one. -/
def Number.toInt? : Number → Option Int
  | .integer value => some value.value
  | .double _ => none

/-- A number as a signed one of 64 bits, if it is one. -/
def Number.toInt64? : Number → Option Int64
  | .integer value =>
    if value.value < 0x8000000000000000 then some (Int64.ofInt value.value) else none
  | .double _ => none

/-- A JSON value. -/
inductive Json where
  | null
  | bool (value : Bool)
  | number (value : Number)
  | string (value : String)
  | array (elements : List Json)
  | object (members : List (String × Json))

namespace Json

/-- The members of an object, ascending by key. -/
abbrev Members := List (String × Json)

/-- The object with these members, of which a later one replaces an earlier one of its key. -/
def ofMembers (members : List (String × Json)) : Json :=
  object (Sorted.putAll members [])

/-- The value under a key of an object. -/
def get? (key : String) : Json → Option Json
  | object members => members.lookup key
  | _ => none

/-- A natural number as a JSON integer, or as a double where it is too large for one. -/
def ofNat (value : Nat) : Json :=
  match Integer.ofInt? value with
  | some exact => .number (.integer exact)
  | none => .number (.double (Float.ofNat value))

/-- A whole number as a JSON integer, or as a double where it lies outside their range. -/
def ofInt (value : Int) : Json :=
  match Integer.ofInt? value with
  | some exact => .number (.integer exact)
  | none => .number (.double (Float.ofInt value))

/-! ### Equality -/

mutual

/-- Whether two values are equal. -/
def equal : Json → Json → Bool
  | null, null => true
  | bool first, bool second => first == second
  | number first, number second => first.equal second
  | string first, string second => first == second
  | array first, array second => equalElements first second
  | object first, object second => equalMembers first second
  | _, _ => false

/-- Whether two lists of values are equal, one by one. -/
def equalElements : List Json → List Json → Bool
  | [], [] => true
  | first :: firstRest, second :: secondRest =>
    equal first second && equalElements firstRest secondRest
  | _, _ => false

/-- Whether two lists of members are equal, one by one. -/
def equalMembers : List (String × Json) → List (String × Json) → Bool
  | [], [] => true
  | (firstKey, first) :: firstRest, (secondKey, second) :: secondRest =>
    firstKey == secondKey && equal first second && equalMembers firstRest secondRest
  | _, _ => false

end

end Json

end Testbed
