/-
This file defines the rows of the data table: the versions of the objects that were persisted.
-/

import Testbed.Json.Text
import Testbed.Uuid

namespace Testbed

open Json

/-- A version of an object. -/
structure DataRow where
  object : Uuid
  version : Int64
  schema : Uuid
  payload : Json

namespace DataRow

def columns : Columns DataRow :=
  ((Columns.field "object_id" Uuid.read).and ((Columns.field "version" readInt64).and
    ((Columns.field "schema_id" Uuid.read).and (Columns.field "payload" readValue)))).build
    fun (object, version, schema, payload) => { object, version, schema, payload }

def read : Reader DataRow :=
  readRecord columns

/-- The row as compact JSON text, with the fields in their order. -/
def text (row : DataRow) : String :=
  "\x7b\"object_id\":" ++ (Json.string row.object.text).compact
    ++ ",\"version\":" ++ toString row.version.toInt
    ++ ",\"schema_id\":" ++ (Json.string row.schema.text).compact
    ++ ",\"payload\":" ++ row.payload.compact ++ "\x7d"

end DataRow

end Testbed
