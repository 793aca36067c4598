/-
This file defines log events: a level, the part of the program that speaks, a message, and named
fields.
-/

namespace Testbed

/-- How much an event matters, from least to most. -/
inductive Level where
  | trace
  | debug
  | info
  | warn
  | error
  deriving DecidableEq, Repr

/-- The name of a level. -/
def Level.name : Level → String
  | trace => "TRACE"
  | debug => "DEBUG"
  | info => "INFO"
  | warn => "WARN"
  | error => "ERROR"

/-- The value of a field. -/
inductive FieldValue where
  | text (value : String)
  | number (value : Int)
  | truth (value : Bool)
  deriving DecidableEq, Repr

/-- A log event. -/
structure Event where
  level : Level
  target : String
  message : String
  fields : List (String × FieldValue)
  deriving DecidableEq, Repr

end Testbed
