/-
This file loads test cases. A case lies in a directory of its own and has two files: the records to
publish, and the state that is expected in the end.
-/

import Testbed.Json.Reader
import Testbed.Outside
import Testbed.Text.Utf8

namespace Testbed

/-- Why a case is not loaded. -/
inductive CaseError where
  /-- A file can not be read. -/
  | unreadable (path cause : String)
  /-- A file does not hold what it should. -/
  | malformed (path : String) (fault : Json.Fault)
  deriving DecidableEq, Repr

/-- The words for a case that is not loaded. -/
def CaseError.message : CaseError → String
  | unreadable path cause => "Failed to read fixture " ++ path ++ ": " ++ cause
  | malformed path fault => "Failed to parse fixture " ++ path ++ ": " ++ fault.message

/-- A case: what goes in and what is expected. -/
structure Case (Input Expected : Type) where
  name : String
  input : Input
  expected : Expected

namespace Case

/-- A path below another. A path that begins at the root replaces the other. -/
def joinPath (base path : String) : String :=
  if path.toList.head? = some '/' then path
  else if base.isEmpty || base.toList.getLast? = some '/' then base ++ path
  else base ++ "/" ++ path

/-- The directory of a case. -/
def directory (root suite name : String) : String :=
  joinPath (joinPath root suite) name

/-- The file of what goes in. -/
def inputFile : String := "input.json"

/-- The file of what is expected. -/
def expectedFile : String := "expected.json"

variable {Value Input Expected : Type}

/-- What a reader makes of the bytes of a file. -/
def decode (read : Json.Reader Value) (path : String) (bytes : List UInt8) :
    Except CaseError Value :=
  match Text.ofBytes? bytes with
  | none => .error (.unreadable path "stream did not contain valid UTF-8")
  | some text => (Json.readAll read text.toList).mapError (.malformed path)

/-- Loads a file of JSON. -/
def loadJson (read : Json.Reader Value) (path : String) : Work (Except CaseError Value) := do
  match ← ask (.readFile path) with
  | .error cause => return .error (.unreadable path cause)
  | .ok bytes => return decode read path bytes

/-- Loads a case. What goes in is loaded first. -/
def load (readInput : Json.Reader Input) (readExpected : Json.Reader Expected)
    (root suite name : String) : Work (Except CaseError (Case Input Expected)) := do
  let place := directory root suite name
  match ← loadJson readInput (joinPath place inputFile) with
  | .error error => return .error error
  | .ok input =>
    match ← loadJson readExpected (joinPath place expectedFile) with
    | .error error => return .error error
    | .ok expected => return .ok { name := suite ++ "/" ++ name, input, expected }

end Case

end Testbed
