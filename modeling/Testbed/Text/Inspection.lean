/-
This file writes structured values for inspection: lists, options, named records and maps, each
part already written. It fixes the brackets and separators of these forms in one place.
-/

import Testbed.Text.Quoted

namespace Testbed.Text

/-- The parts one after another, with the separator between them. -/
def joined (separator : String) (parts : List String) : String :=
  separator.intercalate parts

/-- A list between square brackets. -/
def inspectList (items : List String) : String :=
  "[" ++ joined ", " items ++ "]"

/-- An option, with the word for its presence. -/
def inspectOption : Option String → String
  | none => "None"
  | some item => "Some(" ++ item ++ ")"

/-- A truth value. -/
def inspectBool (value : Bool) : String :=
  if value then "true" else "false"

/-- A value wrapped under a name. -/
def inspectWrapped (name item : String) : String :=
  name ++ "(" ++ item ++ ")"

/-- One part under its name. -/
def inspectField (field : String × String) : String :=
  field.1 ++ ": " ++ field.2

/-- A record with all its parts. -/
def inspectRecord (name : String) (fields : List (String × String)) : String :=
  name ++ " \x7b " ++ joined ", " (fields.map inspectField) ++ " \x7d"

/-- A record that shows some of its parts and hides others. -/
def inspectPartly (name : String) (fields : List (String × String)) : String :=
  name ++ " \x7b " ++ joined ", " (fields.map inspectField ++ [".."]) ++ " \x7d"

/-- A map on one line. -/
def inspectMap (entries : List (String × String)) : String :=
  "\x7b" ++ joined ", " (entries.map inspectField) ++ "\x7d"

/-- A map with one entry a line. -/
def inspectMapOnLines (entries : List (String × String)) : String :=
  if entries.isEmpty then "\x7b\x7d"
  else "\x7b\n" ++ String.join (entries.map fun entry => "    " ++ inspectField entry ++ ",\n")
    ++ "\x7d"

end Testbed.Text
