/-
This file prepares records for the event log. A record is a JSON object. One of its fields gives
the key and another the time, so that a replay of the same records is the same on the log.
-/

import Testbed.Json.Text
import Testbed.Text.Utf8

namespace Testbed

open Json

/-- A record ready for the event log. -/
structure EncodedRecord where
  key : String
  timestamp : Int64
  payload : List UInt8

/-- Why what is offered is no record. -/
inductive RecordError where
  /-- It has no JSON form. -/
  | unserializable (cause : String)
  | notAnObject
  | missingField (field : String)
  | invalidField (field reason : String)
  deriving DecidableEq, Repr

/-- The words for what is no record. -/
def RecordError.message : RecordError → String
  | unserializable cause => "Failed to serialize record: " ++ cause
  | notAnObject => "Record must be a JSON object"
  | missingField field => "Record has no '" ++ field ++ "' field"
  | invalidField field reason => "Record field '" ++ field ++ "' is invalid: " ++ reason

namespace Record

/-- The key of a record: a string, or the text of a number. -/
def key (record : Json) (field : String) : Except RecordError String :=
  match record.get? field with
  | none => .error (.missingField field)
  | some (.string text) => .ok text
  | some (.number value) => .ok (String.ofList (numberText value))
  | some other =>
    .error (.invalidField field ("expected string or number, got " ++ other.compact))

/-- The integer of 64 bits with a sign that a value is. -/
def int64? : Json → Option Int64
  | .number value => value.toInt64?
  | _ => none

/-- The time of a record. -/
def timestamp (record : Json) (field : String) : Except RecordError Int64 :=
  match record.get? field with
  | none => .error (.missingField field)
  | some value =>
    match int64? value with
    | some milliseconds => .ok milliseconds
    | none => .error (.invalidField field ("expected integer milliseconds, got " ++ value.compact))

/-- The record that a value is, with its key and time in these fields. -/
def encode (record : Json) (keyField timestampField : String) :
    Except RecordError EncodedRecord :=
  match record with
  | .object _ =>
    match key record keyField with
    | .error error => .error error
    | .ok key =>
      match timestamp record timestampField with
      | .error error => .error error
      | .ok timestamp => .ok { key, timestamp, payload := Text.bytesOf record.compact }
  | _ => .error .notAnObject

/-- The record that is offered, either as a value or as the reason why there is none. -/
def encodeOffered (offered : Except String Json) (keyField timestampField : String) :
    Except RecordError EncodedRecord :=
  match offered with
  | .error cause => .error (.unserializable cause)
  | .ok record => encode record keyField timestampField

end Record

end Testbed
