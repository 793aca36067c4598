/-
This file defines the stores that a service can persist into. The backend of a store decides the
plugin that the service loads and the word that the service's settings use for it.
-/

import Testbed.Config.Concern

namespace Testbed

/-- The kinds of stores. -/
inductive Backend where
  | relational
  | series
  | column
  deriving DecidableEq, Repr

namespace Backend

/-- The name of the plugin, given to a service as its argument. -/
def pluginName : Backend → String
  | relational => "postgres"
  | series => "victoria-metrics"
  | column => "druid"

/-- The word for the backend in a service's settings. -/
def repositoryKind : Backend → String
  | relational => "postgres"
  | series => "victoria_metrics"
  | column => "druid"

end Backend

/-- A store with the way it is reached. -/
inductive Storage where
  | relational (access : RelationalAccess)
  | series (access : SeriesAccess)
  | column (access : ColumnAccess)

namespace Storage

/-- The kind of the store. -/
def backend : Storage → Backend
  | relational _ => .relational
  | series _ => .series
  | column _ => .column

/-- The fragment of the store. -/
def fragment : Storage → Fragment
  | relational access => access.fragment
  | series access => access.fragment
  | column access => access.fragment

def inspect : Storage → String
  | relational access => Text.inspectWrapped "Postgres" access.inspect
  | series access => Text.inspectWrapped "VictoriaMetrics" access.inspect
  | column access => Text.inspectWrapped "Druid" access.inspect

end Storage

end Testbed
