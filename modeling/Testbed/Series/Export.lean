/-
This file defines exported series and reads them from an export: one JSON object a line. Blank
lines are passed over. The first line that is no series decides the error.
-/

import Testbed.Time.Timestamp
import Testbed.Text.Blank

namespace Testbed

open Json

/-- A series with its labels and its samples. -/
structure ExportedSeries where
  /-- The labels in ascending order of their names. -/
  metric : List (String × String)
  values : List Float
  timestamps : List Int64

namespace ExportedSeries

def columns : Columns ExportedSeries :=
  ((Columns.field "metric" (readMap readString)).and
    ((Columns.field "values" (readList readDouble)).and
      (Columns.field "timestamps" (readList readInt64)))).build
    fun (metric, values, timestamps) => { metric, values, timestamps }

def read : Reader ExportedSeries :=
  readRecord columns

/-- The value of a label. -/
def label? (series : ExportedSeries) (name : String) : Option String :=
  series.metric.lookup name

/-- The name of the series, if it has one. -/
def name? (series : ExportedSeries) : Option String :=
  series.label? "__name__"

/-- The samples in the order of the export, as many as have both a timestamp and a value. -/
def samples (series : ExportedSeries) : List (Timestamp × Float) :=
  (series.timestamps.map Timestamp.mk).zip series.values

end ExportedSeries

/-- The lines of an export that are not blank. -/
def exportLines (body : List Char) : List (List Char) :=
  (Text.lines body).filter fun line => !Text.allBlank line

/-- Reads the series of an export. -/
def parseExport (body : List Char) : Except Fault (List ExportedSeries) :=
  (exportLines body).mapM (readAll ExportedSeries.read)

end Testbed
