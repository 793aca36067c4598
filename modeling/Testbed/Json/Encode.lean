/-
This file builds JSON values for answers: records, texts, lists, and results that hold a value or an
error.
-/

import Testbed.Json.Basic

namespace Testbed.Encode

variable {Value Failure : Type}

/-- An object with these members. -/
def record (members : List (String × Json)) : Json := .ofMembers members

def text (value : String) : Json := .string value

def nat (value : Nat) : Json := .ofNat value

def array (encode : Value → Json) (values : List Value) : Json := .array (values.map encode)

def texts (values : List String) : Json := array text values

/-- Pairs of strings, each as an array. -/
def pairs (values : List (String × String)) : Json :=
  array (fun (first, second) => texts [first, second]) values

/-- A value that may be missing. -/
def nullable (encode : Value → Json) : Option Value → Json
  | none => .null
  | some value => encode value

/-- What succeeded with a value. -/
def ok (value : Json) : Json := record [("ok", value)]

/-- What succeeded without a value. -/
def done : Json := ok .null

/-- What failed with an error of a name. -/
def failure (name : String) (fields : List (String × Json)) : Json :=
  record (("error", text name) :: fields)

/-- What failed with an error of a name and its words. -/
def failureText (name message : String) : Json :=
  failure name [("message", text message)]

/-- What succeeded or failed. -/
def result (encodeError : Failure → Json) (encode : Value → Json) : Except Failure Value → Json
  | .ok value => ok (encode value)
  | .error error => encodeError error

/-- What succeeded without a value, or failed. -/
def outcome (encodeError : Failure → Json) : Except Failure Unit → Json :=
  result encodeError fun _ => .null

end Testbed.Encode
