/-
This file defines statements for the relational store, what each is answered with, and the ways in
which a statement fails.
-/

import Testbed.Relational.Row

namespace Testbed.Relational

/-- What a statement is answered with. -/
inductive Expects where
  /-- The number of rows that were changed. -/
  | count
  /-- Rows of the data table. -/
  | rows
  /-- One text or null. -/
  | text
  deriving DecidableEq, Repr

/-- A row as the store returns it, with the payload as text. -/
structure StoredRow where
  object : Uuid
  version : Int64
  schema : Uuid
  payload : String

/-- The answer to a statement. -/
abbrev Answer : Expects → Type
  | .count => UInt64
  | .rows => List StoredRow
  | .text => Option String

/-- A statement with the values for its parameters. -/
structure Statement (expects : Expects) where
  text : String
  parameters : List String

/-- Why a statement has no answer. -/
inductive Failure where
  /-- The store refused the statement. -/
  | refused (code message : String)
  /-- The connection failed. -/
  | connection (cause : String)
  /-- The pool of connections is closed. -/
  | poolClosed
  /-- No connection became free in time. -/
  | poolTimedOut
  /-- A column does not hold what it should. -/
  | column (cause : String)
  deriving DecidableEq, Repr

/-- The words for a failed statement. -/
def Failure.message : Failure → String
  | refused _ message => "error returned from database: " ++ message
  | connection cause => "error communicating with database: " ++ cause
  | poolClosed => "attempted to acquire a connection on a closed pool"
  | poolTimedOut => "pool timed out while waiting for an open connection"
  | column cause => "error occurred while decoding column \"payload\": " ++ cause

/-- The row that a stored row stands for. -/
def StoredRow.decode (row : StoredRow) : Except Failure DataRow :=
  match Json.parse row.payload.toList with
  | .ok payload =>
    .ok { object := row.object, version := row.version, schema := row.schema, payload }
  | .error _ => .error (.column "the payload is not JSON")

end Testbed.Relational
