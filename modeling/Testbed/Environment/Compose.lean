/-
This file starts and stops the compose project of an environment.
-/

import Testbed.Environment.Resource

namespace Testbed

/-- A compose project. -/
structure ComposeProject where
  file : String
  project : String
  deriving DecidableEq, Repr

namespace ComposeProject

/-- Runs the compose program. A status other than zero is an error, with what the program said. -/
def run (compose : ComposeProject) (action : String) (arguments : List String) :
    Work (Except ProvisioningError Unit) := do
  match ← ask (.compose
      (["compose", "-f", compose.file, "-p", compose.project] ++ arguments)) with
  | .error cause => return .error (.compose action cause)
  | .ok (status, complaint) =>
    if status = .code 0 then return .ok ()
    return .error (.compose action
      (status.message ++ ": " ++ Text.trim (Text.lossy complaint)))

/-- Starts the project. -/
def up (compose : ComposeProject) : Work (Except ProvisioningError Unit) := do
  note .info "lake.env" "Starting compose project"
    [("file", .text compose.file), ("project", .text compose.project)]
  compose.run "up" ["up", "-d"]

/-- Stops the project and removes its volumes. -/
def down (compose : ComposeProject) : Work (Except ProvisioningError Unit) := do
  note .info "lake.env" "Stopping compose project" [("project", .text compose.project)]
  compose.run "down" ["down", "-v"]

end ComposeProject

end Testbed
