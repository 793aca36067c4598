/-
This file defines the response to a query over a range of time.
-/

import Testbed.Json.Reader

namespace Testbed

open Json

/-- A sample of a result: seconds and the text of the value. -/
abbrev QuerySample := Float × String

/-- One result of a query. -/
structure QueryResult where
  /-- The labels in ascending order of their names. -/
  metric : List (String × String)
  value : Option QuerySample
  values : Option (List QuerySample)

/-- The response to a query. -/
structure QueryResponse where
  status : String
  resultType : String
  result : List QueryResult

def QueryResult.columns : Columns QueryResult :=
  ((Columns.field "metric" (readMap readString)).and
    ((Columns.optional "value" (readPair readDouble readString)).and
      (Columns.optional "values" (readList (readPair readDouble readString))))).build
    fun (metric, value, values) => { metric, value, values }

/-- The type and the results of a response. -/
def QueryResponse.dataColumns : Columns (String × List QueryResult) :=
  (Columns.field "resultType" readString).and
    (Columns.field "result" (readList (readRecord QueryResult.columns)))

def QueryResponse.columns : Columns QueryResponse :=
  ((Columns.field "status" readString).and
    (Columns.field "data" (readRecord dataColumns))).build
    fun (status, resultType, result) => { status, resultType, result }

def QueryResponse.read : Reader QueryResponse :=
  readRecord columns

end Testbed
