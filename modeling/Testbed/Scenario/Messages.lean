/-
This file reads messages of the edge registry out of a scenario and writes them into its account,
beside their bytes. A member that is missing is read as empty.
-/

import Testbed.Edges.Message
import Testbed.Json.Decode
import Testbed.Json.Encode

namespace Testbed.Edges

open Decode Encode

/-- Reads a text that is empty where it is missing. -/
def textOf? (input : Json) (name : String) : Option String :=
  optionalOr "" string input name

/-! ### Messages one by one -/

namespace SchemaRelation

def ofJson? : Decode SchemaRelation := fun input => do
  return {
    parentSchema := ← textOf? input "parent_schema_id"
    childSchema := ← textOf? input "child_schema_id" }

def toJson (relation : SchemaRelation) : Json :=
  record
    [("parent_schema_id", text relation.parentSchema),
      ("child_schema_id", text relation.childSchema)]

end SchemaRelation

namespace RelationId

def ofJson? : Decode RelationId := fun input => do
  return { relation := ← textOf? input "relation_id" }

def toJson (identifier : RelationId) : Json :=
  record [("relation_id", text identifier.relation)]

end RelationId

namespace RelationDetails

def ofJson? : Decode RelationDetails := fun input => do
  return {
    relation := ← textOf? input "relation_id"
    parentSchema := ← textOf? input "parent_schema_id"
    childSchema := ← textOf? input "child_schema_id" }

def toJson (details : RelationDetails) : Json :=
  record
    [("relation_id", text details.relation), ("parent_schema_id", text details.parentSchema),
      ("child_schema_id", text details.childSchema)]

end RelationDetails

namespace Edge

def ofJson? : Decode Edge := fun input => do
  return {
    relation := ← textOf? input "relation_id"
    parentObject := ← textOf? input "parent_object_id"
    childObjects := ← optionalOr [] strings input "child_object_ids" }

def toJson (edge : Edge) : Json :=
  record
    [("relation_id", text edge.relation), ("parent_object_id", text edge.parentObject),
      ("child_object_ids", texts edge.childObjects)]

end Edge

namespace RelationIdQuery

def ofJson? : Decode RelationIdQuery := fun input => do
  return {
    relation := ← textOf? input "relation_id"
    parentObject := ← textOf? input "parent_object_id" }

def toJson (query : RelationIdQuery) : Json :=
  record [("relation_id", text query.relation), ("parent_object_id", text query.parentObject)]

end RelationIdQuery

namespace ObjectIdQuery

def ofJson? : Decode ObjectIdQuery := fun input => do
  return { object := ← textOf? input "object_id" }

def toJson (query : ObjectIdQuery) : Json :=
  record [("object_id", text query.object)]

end ObjectIdQuery

/-! ### Messages by name -/

/-- A type of messages: its form on the wire, and its form in a scenario. -/
structure Kind where
  Message : Type
  form : Wire.Form Message
  ofJson? : Decode Message
  toJson : Message → Json

/-- The type of messages of a name. -/
def Kind.ofName? : String → Option Kind
  | "Empty" => some
    { Message := Edges.Empty, form := Edges.Empty.form
      ofJson? := fun input => (members input).map fun _ => {}, toJson := fun _ => record [] }
  | "SchemaRelation" => some ⟨_, SchemaRelation.form, SchemaRelation.ofJson?, SchemaRelation.toJson⟩
  | "RelationId" => some ⟨_, RelationId.form, RelationId.ofJson?, RelationId.toJson⟩
  | "RelationDetails" => some
    ⟨_, RelationDetails.form, RelationDetails.ofJson?, RelationDetails.toJson⟩
  | "RelationList" => some
    { Message := RelationList, form := RelationList.form
      ofJson? := fun input => do
        return { items := ← optionalOr [] (listOf RelationDetails.ofJson?) input "items" }
      toJson := fun message => record [("items", array RelationDetails.toJson message.items)] }
  | "Edge" => some ⟨_, Edge.form, Edge.ofJson?, Edge.toJson⟩
  | "ObjectRelations" => some
    { Message := ObjectRelations, form := ObjectRelations.form
      ofJson? := fun input => do
        return { relations := ← optionalOr [] (listOf Edge.ofJson?) input "relations" }
      toJson := fun message => record [("relations", array Edge.toJson message.relations)] }
  | "RelationIdQuery" => some
    ⟨_, RelationIdQuery.form, RelationIdQuery.ofJson?, RelationIdQuery.toJson⟩
  | "ObjectIdQuery" => some ⟨_, ObjectIdQuery.form, ObjectIdQuery.ofJson?, ObjectIdQuery.toJson⟩
  | _ => none

namespace Kind

/-- A message and its bytes. -/
def account (kind : Kind) (message : kind.Message) : Json :=
  let bytes := kind.form.encode message
  record
    [("fields", kind.toJson message), ("hex", text (String.ofList (Text.hexDigits bytes))),
      ("len", nat bytes.length)]

/-- Reads a message from bytes, takes more bytes into it, and empties it if it is to be empty. -/
def messageOf? (kind : Kind) (bytes : List UInt8) (more : List (List UInt8)) (isCleared : Bool) :
    Option kind.Message := do
  let message ← kind.form.decode? bytes
  let message ← more.foldlM kind.form.merge? message
  return if isCleared then kind.form.empty else message

/-- Turns a message into bytes, or bytes into a message. -/
def coding? (kind : Kind) (input : Json) : Option Json := do
  match input.get? "decode" with
  | some bytes =>
    let bytes ← hex bytes
    let more ← optionalOr [] (listOf hex) input "merge"
    let isCleared ← optionalOr false bool input "clear"
    match kind.messageOf? bytes more isCleared with
    | some message => return kind.account message
    | none => return failure "Decode" []
  | none => return kind.account (← required kind.ofJson? input "encode")

end Kind

end Testbed.Edges
