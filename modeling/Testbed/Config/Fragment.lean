/-
This file defines fragments of configuration. A fragment owns one section of a service's
environment: under the stem of the service's names, its entries become variables named
`<STEM>_<SECTION>__<KEY>`. A fragment may bring a rendering of its own instead.
-/

import Testbed.Config.Variables

namespace Testbed

/-- Whether names of variables can begin with a text: upper-case ASCII letters, digits and
underscores, at least one, and no digit in front. -/
def isStem (text : String) : Bool :=
  match text.toList with
  | [] => false
  | first :: rest =>
    !first.isDigit
      && (first :: rest).all fun character =>
        character.isUpper || character.isDigit || character == '_'

/-- Refuses a text that names of variables can not begin with. -/
def checkStem (stem : String) : Except VariableError Unit :=
  if isStem stem then .ok () else .error (.invalidStem stem)

/-- The name of the variable for an entry of a section. -/
def entryName (stem sectionName key : String) : String :=
  stem ++ "_" ++ sectionName ++ "__" ++ key

/-- The name of the variable for a setting outside all sections. -/
def settingName (stem key : String) : String :=
  stem ++ "_" ++ key

/-- The variables for the entries of a section. -/
def renderSection (sectionName : String) (entries : List (String × String)) (stem : String) :
    Except VariableError Variables :=
  match checkStem stem with
  | .error error => .error error
  | .ok () =>
    Variables.insertAll
      (entries.map fun entry => (entryName stem sectionName entry.1, entry.2)) .empty

/-- A piece of configuration that owns one section. -/
structure Fragment where
  sectionName : String
  /-- The keys without stem and section, with their values. -/
  entries : List (String × String)
  /-- The variables under a stem. -/
  render : (stem : String) → Except VariableError Variables := renderSection sectionName entries

end Testbed
