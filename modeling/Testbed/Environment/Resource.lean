/-
This file defines the infrastructure that a test asks for and what it gets: topics of the event
log, the data table of the relational store, and the series store.
-/

import Testbed.Broker.TopicAdmin
import Testbed.Relational.Store
import Testbed.Series.Store

namespace Testbed

open Text

/-- The infrastructure that a test depends on. -/
structure RequiredResources where
  topics : List String := []
  relational : Bool := false
  series : Bool := false
  /-- Whether the tables of relations are emptied too. -/
  clearsRelations : Bool := false
  deriving DecidableEq, Repr

namespace RequiredResources

/-- No infrastructure. -/
def none : RequiredResources := {}

/-- Also a topic. -/
def withTopic (required : RequiredResources) (name : String) : RequiredResources :=
  { required with topics := required.topics ++ [name] }

/-- Also the relational store. -/
def withRelational (required : RequiredResources) : RequiredResources :=
  { required with relational := true }

/-- Also the series store. -/
def withSeries (required : RequiredResources) : RequiredResources :=
  { required with series := true }

/-- Also the relational store, with the tables of relations emptied. -/
def clearingRelations (required : RequiredResources) : RequiredResources :=
  { required with relational := true, clearsRelations := true }

def inspect (required : RequiredResources) : String :=
  inspectRecord "RequiredResources"
    [("topics", inspectList (required.topics.map quoted)),
      ("postgres", inspectBool required.relational),
      ("series_store", inspectBool required.series),
      ("clear_relations", inspectBool required.clearsRelations)]

end RequiredResources

/-- A topic that is there. It is deleted in the end, whoever created it. -/
structure TopicHandle where
  name : String
  /-- Whether it was created for this environment. -/
  isCreated : Bool
  deriving DecidableEq, Repr

def TopicHandle.inspect (handle : TopicHandle) : String :=
  inspectRecord "TopicHandle"
    [("name", quoted handle.name), ("created", inspectBool handle.isCreated)]

/-- The data table that is there. -/
structure TableHandle where
  schema : String
  deriving DecidableEq, Repr

/-- The name of the table with its schema. -/
def TableHandle.qualifiedName (handle : TableHandle) : String :=
  RelationalStore.qualified handle.schema "data"

def TableHandle.inspect (handle : TableHandle) : String :=
  inspectRecord "TableHandle" [("schema", quoted handle.schema)]

/-- The series store that answers. -/
structure SeriesHandle where
  url : String
  deriving DecidableEq, Repr

def SeriesHandle.inspect (handle : SeriesHandle) : String :=
  inspectRecord "SeriesHandle" [("url", quoted handle.url)]

/-- Why the infrastructure is not there. -/
inductive ProvisioningError where
  /-- A resource was not ready within the budget of attempts. -/
  | notReady (resource : String) (attempts : UInt32) (lastError : String)
  /-- The compose program failed. -/
  | compose (action message : String)
  | broker (cause : Broker.AdminError)
  | relational (cause : RelationalError)
  | series (cause : SeriesError)
  deriving DecidableEq, Repr

/-- The words for missing infrastructure. -/
def ProvisioningError.message : ProvisioningError → String
  | notReady resource attempts lastError =>
    resource ++ " not ready after " ++ toString attempts.toNat ++ " attempts: " ++ lastError
  | compose action message => "docker compose " ++ action ++ " failed: " ++ message
  | broker cause => "Event log admin error: " ++ cause.message
  | relational cause => "Relational store error: " ++ cause.message
  | series cause => "Series store error: " ++ cause.message

end Testbed
