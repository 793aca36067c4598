/-
This file writes errors into accounts: the name of the error and its words. Where the words are not
this library's own, the account holds what is known of the error instead of them.
-/

import Testbed.Case
import Testbed.Edges.Client
import Testbed.Environment.Environment
import Testbed.Json.Encode
import Testbed.Publisher
import Testbed.Query.Client

namespace Testbed

open Encode

def VariableError.toJson (error : VariableError) : Json :=
  failureText (match error with
    | .duplicate _ => "DuplicateKey"
    | .invalidStem _ => "InvalidPrefix") error.message

def SettingsError.toJson (error : SettingsError) : Json :=
  failureText "InvalidValue" error.message

def LaunchError.toJson (error : LaunchError) : Json :=
  failureText (match error with
    | .unsupportedBackend .. => "UnsupportedBackend"
    | .duplicateKey .. => "DuplicateKey"
    | .invalidVariables .. => "Environment"
    | .spawn .. => "Spawn"
    | .alreadyStopped .. => "AlreadyStopped"
    | .exited .. => "Exited"
    | .unknownStatus .. => "Status"
    | .noPort .. => "NoRpcPort"
    | .notListening .. => "NotListening") error.message

def RecordError.toJson (error : RecordError) : Json :=
  match error with
  | unserializable _ => failure "Serialization" []
  | notAnObject => failureText "NotAnObject" error.message
  | missingField _ => failureText "MissingField" error.message
  | invalidField .. => failureText "InvalidField" error.message

/-- What was wrong with a JSON text. -/
def Json.Fault.category : Json.Fault → String
  | malformed => "syntax"
  | ended => "eof"
  | mismatched => "data"

/-- An error of a name about a JSON text. -/
def Json.Fault.account (name : String) (fault : Json.Fault) : Json :=
  failure name [("category", text fault.category)]

def Http.Failure.toJson (cause : Http.Failure) : Json :=
  failure "HttpError" [("kind", text (match cause.stage with
    | .builder => "builder"
    | .connect => "connect"
    | .request => "request"
    | .decode => "decode"))]

def SeriesError.toJson (error : SeriesError) : Json :=
  match error with
  | http cause => cause.toJson
  | requestFailed endpoint status body =>
    failure "RequestFailed"
      [("message", text error.message), ("endpoint", text endpoint),
        ("status", nat status.toNat), ("body", text body)]
  | queryFailed _ => failureText "QueryFailed" error.message
  | json fault => fault.account "JsonError"

def QueryError.toJson (error : QueryError) : Json :=
  match error with
  | http cause => cause.toJson
  | requestFailed status body =>
    failure "RequestFailed"
      [("message", text error.message), ("status", nat status.toNat), ("body", text body)]
  | json fault => fault.account "JsonError"

def EdgeError.toJson (error : EdgeError) : Json :=
  match error with
  | invalidAddress _ => failureText "InvalidAddress" error.message
  | connect _ => failureText "Connect" error.message
  | rpc method status => failure "Rpc" [("method", text method), ("code", nat status.code)]
  | invalidResponse .. => failureText "InvalidResponse" error.message

def RelationalError.toJson (error : RelationalError) : Json :=
  match error with
  | invalidSchema _ => failureText "InvalidSchema" error.message
  | database (.refused code message) =>
    failure "Database"
      [("source", text "Database"), ("code", text code), ("message", text message)]
  | database cause => failure "Database" [("source", text (match cause with
    | .connection _ => "Io"
    | .poolClosed => "PoolClosed"
    | .poolTimedOut => "PoolTimedOut"
    | _ => "ColumnDecode"))]

def Broker.AdminError.toJson (error : Broker.AdminError) : Json :=
  match error with
  | client _ => failure "Client" []
  | refused topic code =>
    failure "Topic"
      [("topic", text topic), ("code", text code.message), ("message", text error.message)]
  | task _ => failureText "Task" error.message

def ProvisioningError.toJson (error : ProvisioningError) : Json :=
  match error with
  | notReady .. => failureText "NotReady" error.message
  | compose .. => failureText "Compose" error.message
  | broker cause => failure "Kafka" [("source", cause.toJson)]
  | relational cause => failure "Relational" [("source", cause.toJson)]
  | series cause => failure "Series" [("source", cause.toJson)]

/-- Why a record was not published, without the words for a broker that did not answer. -/
def PublishError.toJson (error : PublishError) : Json :=
  match error with
  | record cause => cause.toJson
  | timeout topic key _ =>
    failure "Timeout" ([("topic", text topic), ("key", text key)]
      ++ if error.isSilence then [] else [("message", text error.message)])
  | client _ => failure "Client" []

def CaseError.toJson (error : CaseError) : Json :=
  match error with
  | unreadable .. => failureText "Io" error.message
  | malformed path fault =>
    failure "Json" [("path", text path), ("category", text fault.category)]

end Testbed
