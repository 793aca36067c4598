/-
This file defines the environment variables that a service is launched with. A variable is set
once: setting it again is refused instead of replacing its value, so a clash between two pieces of
configuration shows before anything is started. Adding many variables adds all of them or none.
Values of variables whose name speaks of a password or a secret are never shown.
-/

import Testbed.Sorted
import Testbed.Text.Blank
import Testbed.Text.Inspection

namespace Testbed

open Text

/-- Environment variables in ascending order of their names. -/
structure Variables where
  entries : List (String × String)
  ascending : Sorted.Ascending entries

/-- Why variables are refused. -/
inductive VariableError where
  /-- The variable is set already. -/
  | duplicate (key : String)
  /-- A name can not begin like this. -/
  | invalidStem (stem : String)
  deriving DecidableEq, Repr

/-- The words for a refusal. -/
def VariableError.message : VariableError → String
  | duplicate key => "Duplicate launch environment key: " ++ key
  | invalidStem stem => "Invalid environment prefix: " ++ quoted stem

namespace Variables

/-- No variables. -/
def empty : Variables where
  entries := []
  ascending := Sorted.ascending_nil

/-- The value of a variable. -/
def get? (bindings : Variables) (key : String) : Option String :=
  bindings.entries.lookup key

/-- Whether a variable is set. -/
def contains (bindings : Variables) (key : String) : Bool :=
  (bindings.get? key).isSome

/-- The number of variables. -/
def size (bindings : Variables) : Nat :=
  bindings.entries.length

/-- The names of the variables. -/
def keys (bindings : Variables) : List String :=
  bindings.entries.map (·.1)

/-- Whether two sets of variables are the same. -/
def equal (first second : Variables) : Bool :=
  first.entries == second.entries

/-- Sets a variable that is not set yet. -/
def insert (bindings : Variables) (key value : String) : Except VariableError Variables :=
  if bindings.contains key then .error (.duplicate key)
  else .ok
    ⟨Sorted.put key value bindings.entries, Sorted.ascending_put key value bindings.ascending⟩

/-- Sets one variable after another. -/
def insertAll : List (String × String) → Variables → Except VariableError Variables
  | [], bindings => .ok bindings
  | (key, value) :: rest, bindings =>
    match bindings.insert key value with
    | .error error => .error error
    | .ok bindings => insertAll rest bindings

/-- Sets many variables at once. Where some are set already, the first of them in the order of
their names is reported and nothing is set. -/
def merge (bindings added : Variables) : Except VariableError Variables :=
  match added.keys.find? bindings.contains with
  | some key => .error (.duplicate key)
  | none =>
    .ok ⟨Sorted.putAll added.entries bindings.entries,
      Sorted.ascending_putAll added.entries bindings.ascending⟩

/-! ### Showing variables -/

/-- The words in a name that keep its value from being shown. -/
def sensitiveWords : List String := ["PASSWORD", "SECRET"]

/-- Whether the value of a variable is kept from being shown. -/
def isSensitive (key : String) : Bool :=
  sensitiveWords.any fun word => occursIn word.toList key.toList

/-- What is shown in place of a value. -/
def redacted : String := "[REDACTED]"

/-- A variable as it is shown. -/
def inspectEntry (entry : String × String) : String × String :=
  (quoted entry.1, quoted (if isSensitive entry.1 then redacted else entry.2))

/-- The variables on one line. -/
def inspect (bindings : Variables) : String :=
  inspectMap (bindings.entries.map inspectEntry)

/-- The variables with one a line. -/
def inspectOnLines (bindings : Variables) : String :=
  inspectMapOnLines (bindings.entries.map inspectEntry)

end Variables

end Testbed
