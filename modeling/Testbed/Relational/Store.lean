/-
This file reads, fills and clears the tables of the relational store. The name of the schema is the
only text from outside that becomes part of a statement, and it is checked to be a plain
identifier before any connection is made. Changes of several rows happen in one transaction.
-/

import Testbed.Outside

namespace Testbed

open Outside

/-- Why an operation on the relational store failed. -/
inductive RelationalError where
  | database (cause : Relational.Failure)
  | invalidSchema (name : String)
  deriving DecidableEq, Repr

/-- The words for a failed operation. -/
def RelationalError.message : RelationalError → String
  | database cause => "Database error: " ++ cause.message
  | invalidSchema name => "Invalid schema name '" ++ name ++ "'"

/-- The relational store, with the pool of its connections. -/
structure RelationalStore where
  pool : Nat
  schema : String
  deriving DecidableEq, Repr

namespace RelationalStore

open Relational

/-- The most bytes of an identifier. -/
def identifierLimit : Nat := 63

/-- Whether a name is a plain identifier: lower-case ASCII letters, digits and underscores, at least
one, and no digit in front. -/
def isIdentifier (name : String) : Bool :=
  match name.toList with
  | [] => false
  | first :: rest =>
    Text.byteCount (first :: rest) ≤ identifierLimit && !first.isDigit
      && (first :: rest).all fun character =>
        character.isLower || character.isDigit || character == '_'

/-- Connects to the relational store. -/
def connect (access : RelationalAccess) : Work (Except RelationalError RelationalStore) :=
  if isIdentifier access.schema then do
    match ← ask (.openPool access) with
    | .error cause => return .error (.database cause)
    | .ok pool => return .ok { pool, schema := access.schema }
  else return .error (.invalidSchema access.schema)

/-! ### Statements -/

/-- The name of a table in a schema. -/
def qualified (schema table : String) : String :=
  schema ++ "." ++ table

def createSchema (schema : String) : Statement .count where
  text := "CREATE SCHEMA IF NOT EXISTS " ++ schema
  parameters := []

def createTable (schema : String) : Statement .count where
  text :=
    "\n            CREATE TABLE IF NOT EXISTS " ++ qualified schema "data"
      ++ (" (\n                object_id UUID NOT NULL,"
        ++ "\n                version BIGINT NOT NULL,"
        ++ "\n                schema_id UUID NOT NULL,"
        ++ "\n                payload JSON NOT NULL,"
        ++ "\n                PRIMARY KEY (object_id, version)"
        ++ "\n            )\n            ")
  parameters := []

def selectAll (schema : String) : Statement .rows where
  text :=
    "\n            SELECT object_id, version, schema_id, payload\n            FROM "
      ++ qualified schema "data" ++ "\n            ORDER BY version\n            "
  parameters := []

def selectObject (schema : String) (object : Uuid) : Statement .rows where
  text :=
    "\n            SELECT object_id, version, schema_id, payload\n            FROM "
      ++ qualified schema "data"
      ++ "\n            WHERE object_id = $1\n            ORDER BY version\n            "
  parameters := [object.text]

def insertRow (schema : String) (row : DataRow) : Statement .count where
  text :=
    "INSERT INTO " ++ qualified schema "data"
      ++ " (object_id, version, schema_id, payload) VALUES ($1, $2, $3, $4::json)"
  parameters :=
    [row.object.text, toString row.version.toInt, row.schema.text, row.payload.compact]

def deleteFrom (table : String) : Statement .count where
  text := "DELETE FROM " ++ table
  parameters := []

def findTable (table : String) : Statement .text where
  text := "SELECT to_regclass($1)::text"
  parameters := [table]

/-! ### Operations -/

/-- Performs a statement on any connection. -/
def onPool {expects : Expects} (store : RelationalStore) (statement : Statement expects) :
    Work (Except RelationalError (Answer expects)) := do
  match ← ask (.perform (.pool store.pool) expects statement) with
  | .ok answer => return .ok answer
  | .error cause => return .error (.database cause)

/-- Creates the schema and the data table unless they exist. -/
def ensureDataTable (store : RelationalStore) : Work (Except RelationalError Unit) := do
  match ← store.onPool (createSchema store.schema) with
  | .error error => return .error error
  | .ok _ =>
    match ← store.onPool (createTable store.schema) with
    | .error error => return .error error
    | .ok _ =>
      note .debug "lake.env" "Data table ensured" [("schema", .text store.schema)]
      return .ok ()

/-- The rows that a statement selects. -/
def rows (store : RelationalStore) (statement : Statement .rows) :
    Work (Except RelationalError (List DataRow)) := do
  match ← store.onPool statement with
  | .error error => return .error error
  | .ok stored =>
    match stored.mapM StoredRow.decode with
    | .ok rows => return .ok rows
    | .error cause => return .error (.database cause)

/-- All rows, by version. -/
def fetchData (store : RelationalStore) : Work (Except RelationalError (List DataRow)) :=
  store.rows (selectAll store.schema)

/-- The versions of an object. -/
def fetchObject (store : RelationalStore) (object : Uuid) :
    Work (Except RelationalError (List DataRow)) :=
  store.rows (selectObject store.schema object)

/-- Inserts rows in a transaction, up to the first that is refused. -/
def insertRows (schema : String) (transaction : Nat) :
    List DataRow → Work (Except Relational.Failure Unit)
  | [] => return .ok ()
  | row :: rest => do
    match ← ask (.perform (.transaction transaction) .count (insertRow schema row)) with
    | .error cause => return .error cause
    | .ok _ => insertRows schema transaction rest

/-- Does something in a transaction of its own, which is committed if all of it succeeded and left
otherwise. -/
def inTransaction (store : RelationalStore)
    (changes : (transaction : Nat) → Work (Except Relational.Failure Unit)) :
    Work (Except RelationalError Unit) := do
  match ← ask (.begin store.pool) with
  | .error cause => return .error (.database cause)
  | .ok transaction =>
    match ← changes transaction with
    | .error cause =>
      ask (.abandon transaction)
      return .error (.database cause)
    | .ok () =>
      match ← ask (.commit transaction) with
      | .error cause =>
        ask (.abandon transaction)
        return .error (.database cause)
      | .ok () => return .ok ()

/-- Inserts rows, all or none. -/
def insertData (store : RelationalStore) (rows : List DataRow) :
    Work (Except RelationalError Unit) :=
  store.inTransaction fun transaction => insertRows store.schema transaction rows

/-- Deletes every row of the data table. -/
def clearData (store : RelationalStore) : Work (Except RelationalError UInt64) := do
  match ← store.onPool (deleteFrom (qualified store.schema "data")) with
  | .error error => return .error error
  | .ok count =>
    note .debug "lake.env" "Cleared data table" [("rows", .number count.toNat)]
    return .ok count

/-- Deletes the rows of a table if the table exists. -/
def clearIfPresent (transaction : Nat) (table : String) :
    Work (Except Relational.Failure Unit) := do
  match ← ask (.perform (.transaction transaction) .text (findTable table)) with
  | .error cause => return .error cause
  | .ok none => return .ok ()
  | .ok (some _) =>
    match ← ask (.perform (.transaction transaction) .count (deleteFrom table)) with
    | .error cause => return .error cause
    | .ok _ => return .ok ()

/-- Deletes all edges, and then all relations, to which edges refer. -/
def clearRelations (store : RelationalStore) : Work (Except RelationalError Unit) := do
  let cleared ← store.inTransaction fun transaction => do
    match ← clearIfPresent transaction (qualified store.schema "edges") with
    | .error cause => return .error cause
    | .ok () => clearIfPresent transaction (qualified store.schema "relations")
  match cleared with
  | .error error => return .error error
  | .ok () =>
    note .debug "lake.env" "Cleared relations" [("schema", .text store.schema)]
    return .ok ()

/-- Closes the pool. -/
def close (store : RelationalStore) : Work Unit :=
  ask (.closePool store.pool)

end RelationalStore

end Testbed
