/-
This file asks the edge registry for relations and edges. Each call is logged, and so is each call
that the registry refuses.
-/

import Testbed.Edges.Message
import Testbed.Http.Uri
import Testbed.Outside

namespace Testbed

open Outside Edges

/-- The names of the codes of refused calls. -/
def rpcCodeNames : List String :=
  ["Ok", "Cancelled", "Unknown", "InvalidArgument", "DeadlineExceeded", "NotFound",
    "AlreadyExists", "PermissionDenied", "ResourceExhausted", "FailedPrecondition", "Aborted",
    "OutOfRange", "Unimplemented", "Internal", "Unavailable", "DataLoss", "Unauthenticated"]

/-- The name of a code; a code that is not known is an unknown error. -/
def rpcCodeName (code : Nat) : String :=
  rpcCodeNames.getD code "Unknown"

/-- Why a call to the edge registry failed. -/
inductive EdgeError where
  | invalidAddress (address : String)
  | connect (cause : String)
  | rpc (method : String) (status : RpcStatus)
  | invalidResponse (field value : String)
  deriving DecidableEq, Repr

/-- The words for a failed call. -/
def EdgeError.message : EdgeError → String
  | invalidAddress address => "Invalid registry address '" ++ address ++ "'"
  | connect cause => "Connection failed: " ++ cause
  | rpc method status =>
    "RPC " ++ method ++ " failed: status: " ++ rpcCodeName status.code ++ ", message: "
      ++ Text.quoted status.message
  | invalidResponse field value =>
    "Response field " ++ field ++ " is not a UUID: '" ++ value ++ "'"

/-- A connection to the edge registry. -/
structure EdgeRegistryClient where
  channel : Nat
  deriving DecidableEq, Repr

namespace EdgeRegistryClient

/-- The URI of an address. An address is a URI already, or else a host with an optional port. -/
def uriOf (address : String) : String :=
  if Text.occursIn [':', '/', '/'] address.toList then address else "http://" ++ address

/-- Connects to the registry at an address. -/
def connect (address : String) : Work (Except EdgeError EdgeRegistryClient) :=
  let uri := uriOf address
  if Http.isUri uri.toList then do
    match ← ask (.openChannel uri) with
    | .ok channel => return .ok ⟨channel⟩
    | .error cause =>
      note .warn "lake.rpc" "Failed to connect to edge registry"
        [("error", .text cause), ("endpoint", .text uri)]
      return .error (.connect cause)
  else return .error (.invalidAddress address)

/-- Notes a refused call. -/
def refuse {Value : Type} (method : String) (status : RpcStatus) :
    Work (Except EdgeError Value) := do
  note .warn "lake.rpc" "Edge registry RPC failed"
    [("method", .text method), ("code", .text (rpcCodeName status.code))]
  return .error (.rpc method status)

/-- The status of a call without a readable answer. -/
def internalCode : Nat := 13

/-- The status of a call that no connection takes. -/
def unavailableCode : Nat := 14

/-- The path of a method. -/
def methodPath (method : String) : String :=
  "/edge_registry.EdgeRegistry/" ++ method

/-- Calls a method with a message and reads the message that it answers. -/
def unary {Question Response : Type} (client : EdgeRegistryClient) (method : String)
    (questionForm : Wire.Form Question) (answerForm : Wire.Form Response) (question : Question) :
    Work (Except EdgeError Response) := do
  match ← ask (.awaitChannel client.channel) with
  | .error cause =>
    refuse method { code := unavailableCode, message := "Service was not ready: " ++ cause }
  | .ok () =>
    note .debug "lake.rpc" "Calling edge registry" [("method", .text method)]
    match ← ask (.call client.channel (methodPath method) (questionForm.encode question)) with
    | .error status => refuse method status
    | .ok none => refuse method { code := internalCode, message := "Missing response message." }
    | .ok (some bytes) =>
      match answerForm.decode? bytes with
      | some answer => return .ok answer
      | none => refuse method { code := internalCode, message := "failed to decode" }

/-- Registers a relation and gives its identifier. -/
def addRelation (client : EdgeRegistryClient) (parentSchema childSchema : Uuid) :
    Work (Except EdgeError Uuid) := do
  match ← client.unary "AddRelation" SchemaRelation.form RelationId.form
      { parentSchema := parentSchema.text, childSchema := childSchema.text } with
  | .error error => return .error error
  | .ok answer =>
    match Uuid.parse? answer.relation with
    | some identifier => return .ok identifier
    | none => return .error (.invalidResponse "relation_id" answer.relation)

/-- The relations that are registered. -/
def listRelations (client : EdgeRegistryClient) :
    Work (Except EdgeError (List RelationDetails)) := do
  match ← client.unary "ListRelations" Edges.Empty.form RelationList.form {} with
  | .error error => return .error error
  | .ok answer => return .ok answer.items

/-- Adds edges. -/
def addEdges (client : EdgeRegistryClient) (edges : List Edge) : Work (Except EdgeError Unit) := do
  match ← client.unary "AddEdges" ObjectRelations.form Edges.Empty.form { relations := edges } with
  | .error error => return .error error
  | .ok _ => return .ok ()

/-- The children of an object within a relation. -/
def getEdge (client : EdgeRegistryClient) (relation parentObject : Uuid) :
    Work (Except EdgeError Edge) :=
  client.unary "GetEdge" RelationIdQuery.form Edge.form
    { relation := relation.text, parentObject := parentObject.text }

/-- The edges of an object. -/
def getEdges (client : EdgeRegistryClient) (object : Uuid) :
    Work (Except EdgeError (List Edge)) := do
  match ← client.unary "GetEdges" ObjectIdQuery.form ObjectRelations.form
      { object := object.text } with
  | .error error => return .error error
  | .ok answer => return .ok answer.relations

/-- Asks whether the registry answers. -/
def heartbeat (client : EdgeRegistryClient) : Work (Except EdgeError Unit) := do
  match ← client.unary "Heartbeat" Edges.Empty.form Edges.Empty.form {} with
  | .error error => return .error error
  | .ok _ => return .ok ()

end EdgeRegistryClient

end Testbed
