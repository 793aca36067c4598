/-
This file holds the cases that come with the library: insertions of one record and of several
records, once persisted into the relational store and once into the series store.
-/

import Testbed.Json.Text

namespace Testbed

/-- A case with the values of its two files. -/
structure BundledCase where
  suite : String
  name : String
  input : Json
  expected : Json

namespace BundledCase

/-! ### The forms of the values -/

/-- A whole number. -/
def whole (value : Nat) : Json := .ofNat value

/-- A number with a fraction. -/
def fractional (value : Float) : Json := .number (.double value)

/-- A record to publish. -/
def insertion (object schema : String) (timestamp : Nat) (data : List (String × Json)) : Json :=
  .ofMembers
    [("object_id", .string object), ("schema_id", .string schema), ("timestamp", whole timestamp),
      ("data", .ofMembers data)]

/-- A row of the data table. -/
def row (object schema : String) (version : Nat) (payload : List (String × Json)) : Json :=
  .ofMembers
    [("object_id", .string object), ("version", whole version), ("schema_id", .string schema),
      ("payload", .ofMembers payload)]

/-- A person. -/
def person (name : String) (age : Nat) : List (String × Json) :=
  [("name", .string name), ("age", whole age)]

/-- A measured value. -/
def measurement (value : Float) : List (String × Json) :=
  [("value", fractional value)]

/-- A series of measured values of an object. -/
def series (object schema : String) (samples : List (Nat × Float)) : Json :=
  .ofMembers
    [("metric",
        .ofMembers [("__name__", .string (schema ++ "_value")), ("object_id", .string object)]),
      ("values", .array (samples.map fun sample => fractional sample.2)),
      ("timestamps", .array (samples.map fun sample => whole sample.1))]

/-! ### The cases -/

/-- The schema of persons. -/
def personSchema : String := "b7e1a3de-8e1e-11eb-8dcd-0242ac130003"

/-- The schema of measured values. -/
def measurementSchema : String := "d1f0c8de-8e1e-11eb-8dcd-0242ac130003"

/-- The persons of the first case. -/
def onePerson : List (String × Nat × List (String × Json)) :=
  [("b7e1a1e4-8e1e-11eb-8dcd-0242ac130003", 1616500000000, person "Alice" 34)]

/-- The persons of the second case. -/
def severalPersons : List (String × Nat × List (String × Json)) :=
  [("c4a9e0d2-8e1e-11eb-8dcd-0242ac130003", 1616500000001, person "Bob" 27),
    ("c4a9e3a2-8e1e-11eb-8dcd-0242ac130003", 1616500000002, person "Carol" 41),
    ("c4a9e4ce-8e1e-11eb-8dcd-0242ac130003", 1616500000003, person "Dave" 19)]

/-- A case in which every person becomes a row. -/
def ofPersons (name : String) (persons : List (String × Nat × List (String × Json))) :
    BundledCase where
  suite := "command_service/postgres"
  name
  input := .array (persons.map fun (object, time, data) => insertion object personSchema time data)
  expected := .array (persons.map fun (object, time, data) => row object personSchema time data)

/-- The first measured object. -/
def firstObject : String := "d1f0c6b8-8e1e-11eb-8dcd-0242ac130003"

/-- The second measured object. -/
def secondObject : String := "e7a4b2f0-8e1e-11eb-8dcd-0242ac130003"

/-- A record with a measured value. -/
def measured (object : String) (time : Nat) (value : Float) : Json :=
  insertion object measurementSchema time (measurement value)

/-- One measured value. -/
def oneMeasurement : BundledCase where
  suite := "command_service/victoria_metrics"
  name := "single_insert"
  input := .array [measured firstObject 1616500000000 21.5]
  expected := .array [series firstObject measurementSchema [(1616500000000, 21.5)]]

/-- Measured values of two objects. -/
def severalMeasurements : BundledCase where
  suite := "command_service/victoria_metrics"
  name := "multiple_inserts"
  input :=
    .array
      [measured firstObject 1616500000000 21.5, measured secondObject 1616500000500 19.25,
        measured firstObject 1616500001000 22.0]
  expected :=
    .array
      [series firstObject measurementSchema [(1616500000000, 21.5), (1616500001000, 22.0)],
        series secondObject measurementSchema [(1616500000500, 19.25)]]

/-- The cases that come with the library. -/
def all : List BundledCase :=
  [ofPersons "single_insert" onePerson, ofPersons "multiple_inserts" severalPersons,
    oneMeasurement, severalMeasurements]

/-- The two files of a case below a root, each with its path and its text. -/
def files (root : String) (case : BundledCase) : List (String × String) :=
  let place := root ++ "/" ++ case.suite ++ "/" ++ case.name
  [(place ++ "/input.json", case.input.compact), (place ++ "/expected.json", case.expected.compact)]

end BundledCase

end Testbed
