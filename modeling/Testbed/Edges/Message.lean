/-
This file defines the messages of the edge registry and their wire forms. All identifiers travel as
text. A text that is empty is not written, except as an element of a list.
-/

import Testbed.Edges.Wire
import Testbed.Text.Utf8
import Testbed.Uuid

namespace Testbed.Edges

open Wire Text

/-! ### Fields of messages -/

variable {Message Part : Type}

/-- A field of text: nothing if the text is empty. -/
def textField (number : Nat) (text : String) : List (Nat × List UInt8) :=
  if text.isEmpty then [] else [(number, bytesOf text)]

/-- A field for every text of a list. -/
def textFields (number : Nat) (texts : List String) : List (Nat × List UInt8) :=
  texts.map fun text => (number, bytesOf text)

/-- A field for every message of a list. -/
def messageFields (number : Nat) (form : Form Part) (parts : List Part) :
    List (Nat × List UInt8) :=
  parts.map fun part => (number, form.encode part)

/-- Takes a text into a message. -/
def takeText (place : String → Message → Message) (bytes : List UInt8) (message : Message) :
    Option Message :=
  (ofBytes? bytes).map fun text => place text message

/-- Takes a message into a message, with one level less for the groups inside it. -/
def takeMessage (levels : Nat) (form : Form Part) (place : Part → Message → Message)
    (bytes : List UInt8) (message : Message) : Option Message :=
  (form.mergeWithin (levels - 1) form.empty bytes).map fun part => place part message

/-! ### The messages -/

/-- A message that says nothing. -/
structure Empty where
  deriving DecidableEq

def Empty.form : Form Empty where
  empty := {}
  fields _ := []
  take _ _ := none

/-- A relation from a parent schema to a child schema. -/
structure SchemaRelation where
  parentSchema : String := ""
  childSchema : String := ""
  deriving DecidableEq

def SchemaRelation.form : Form SchemaRelation where
  empty := {}
  fields relation := textField 1 relation.parentSchema ++ textField 2 relation.childSchema
  take _ number := match number with
    | 1 => some (takeText fun text relation => { relation with parentSchema := text })
    | 2 => some (takeText fun text relation => { relation with childSchema := text })
    | _ => none

/-- The identifier of a relation. -/
structure RelationId where
  relation : String := ""
  deriving DecidableEq

def RelationId.form : Form RelationId where
  empty := {}
  fields message := textField 1 message.relation
  take _ number := match number with
    | 1 => some (takeText fun text message => { message with relation := text })
    | _ => none

/-- A relation with its identifier. -/
structure RelationDetails where
  relation : String := ""
  parentSchema : String := ""
  childSchema : String := ""
  deriving DecidableEq

def RelationDetails.form : Form RelationDetails where
  empty := {}
  fields details :=
    textField 1 details.relation ++ (textField 2 details.parentSchema
      ++ textField 3 details.childSchema)
  take _ number := match number with
    | 1 => some (takeText fun text details => { details with relation := text })
    | 2 => some (takeText fun text details => { details with parentSchema := text })
    | 3 => some (takeText fun text details => { details with childSchema := text })
    | _ => none

/-- The relations that a registry keeps. -/
structure RelationList where
  items : List RelationDetails := []
  deriving DecidableEq

def RelationList.form : Form RelationList where
  empty := {}
  fields list := messageFields 1 RelationDetails.form list.items
  take levels number := match number with
    | 1 => some (takeMessage levels RelationDetails.form fun item list =>
      { list with items := list.items ++ [item] })
    | _ => none

/-- The children of a parent object within a relation. -/
structure Edge where
  relation : String := ""
  parentObject : String := ""
  childObjects : List String := []
  deriving DecidableEq

def Edge.form : Form Edge where
  empty := {}
  fields edge :=
    textField 1 edge.relation ++ (textField 2 edge.parentObject ++ textFields 3 edge.childObjects)
  take _ number := match number with
    | 1 => some (takeText fun text edge => { edge with relation := text })
    | 2 => some (takeText fun text edge => { edge with parentObject := text })
    | 3 => some (takeText fun text edge =>
      { edge with childObjects := edge.childObjects ++ [text] })
    | _ => none

/-- The edge to children in the given order. -/
def Edge.ofIdentifiers (relation parentObject : Uuid) (childObjects : List Uuid) : Edge where
  relation := relation.text
  parentObject := parentObject.text
  childObjects := childObjects.map Uuid.text

/-- The edges of objects. -/
structure ObjectRelations where
  relations : List Edge := []
  deriving DecidableEq

def ObjectRelations.form : Form ObjectRelations where
  empty := {}
  fields message := messageFields 1 Edge.form message.relations
  take levels number := match number with
    | 1 => some (takeMessage levels Edge.form fun edge message =>
      { message with relations := message.relations ++ [edge] })
    | _ => none

/-- A query for the edge of an object within a relation. -/
structure RelationIdQuery where
  relation : String := ""
  parentObject : String := ""
  deriving DecidableEq

def RelationIdQuery.form : Form RelationIdQuery where
  empty := {}
  fields query := textField 1 query.relation ++ textField 2 query.parentObject
  take _ number := match number with
    | 1 => some (takeText fun text query => { query with relation := text })
    | 2 => some (takeText fun text query => { query with parentObject := text })
    | _ => none

/-- A query for the edges of an object. -/
structure ObjectIdQuery where
  object : String := ""
  deriving DecidableEq

def ObjectIdQuery.form : Form ObjectIdQuery where
  empty := {}
  fields query := textField 1 query.object
  take _ number := match number with
    | 1 => some (takeText fun text query => { query with object := text })
    | _ => none

end Testbed.Edges
