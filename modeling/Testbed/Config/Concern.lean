/-
This file defines what a service is configured with: where its records come from, where it reports,
how it is observed, and the stores it writes to. Each concern becomes one fragment, can be read
from JSON, and can be shown; a password is never shown.
-/

import Testbed.Config.Fragment
import Testbed.Json.Reader

namespace Testbed

open Text Json

/-- A port as it stands in a variable. -/
def portText (port : UInt16) : String :=
  toString port.toNat

/-- A text that is not shown. -/
structure Secret where
  /-- The text itself. -/
  exposed : String

/-- What is shown in place of a secret. -/
def Secret.inspect (_ : Secret) : String :=
  inspectWrapped "SecretBox<str>" Variables.redacted

/-! ### Input of records -/

/-- The consumer group of an input that names none. -/
def defaultGroup : String := "cdl-integration-tests"

/-- Where a service takes its records from. -/
structure EventInput where
  brokers : String
  group : String := defaultGroup
  topic : String

namespace EventInput

def fragment (input : EventInput) : Fragment where
  sectionName := "KAFKA"
  entries := [("BROKERS", input.brokers), ("GROUP_ID", input.group), ("INGEST_TOPIC", input.topic)]

def columns : Columns EventInput :=
  ((Columns.field "brokers" readString).and
    ((Columns.field "group_id" readString).and (Columns.field "topic" readString))).build
    fun (brokers, group, topic) => { brokers, group, topic }

def inspect (input : EventInput) : String :=
  inspectRecord "KafkaInputConfig"
    [("brokers", quoted input.brokers), ("group_id", quoted input.group),
      ("topic", quoted input.topic)]

end EventInput

/-! ### Reports -/

/-- Where a service publishes its notifications. -/
structure ReportTarget where
  destination : String
  isEnabled : Bool := true

namespace ReportTarget

/-- No reports. Services still expect the section. -/
def disabled : ReportTarget where
  destination := ""
  isEnabled := false

def fragment (report : ReportTarget) : Fragment where
  sectionName := "NOTIFICATIONS"
  entries := [("DESTINATION", report.destination), ("ENABLED", inspectBool report.isEnabled)]

def columns : Columns ReportTarget :=
  ((Columns.field "destination" readString).and (Columns.field "enabled" readBool)).build
    fun (destination, isEnabled) => { destination, isEnabled }

def inspect (report : ReportTarget) : String :=
  inspectRecord "KafkaReportConfig"
    [("destination", quoted report.destination), ("enabled", inspectBool report.isEnabled)]

end ReportTarget

/-! ### The relational store -/

/-- How the relational store is reached. -/
structure RelationalAccess where
  host : String := "localhost"
  port : UInt16 := 5432
  username : String := "postgres"
  password : Secret := ⟨"1234"⟩
  database : String := "postgres"
  schema : String := "cdlgrpc"

namespace RelationalAccess

def fragment (access : RelationalAccess) : Fragment where
  sectionName := "POSTGRES"
  entries :=
    [("HOST", access.host), ("PORT", portText access.port), ("USERNAME", access.username),
      ("PASSWORD", access.password.exposed), ("DBNAME", access.database),
      ("SCHEMA", access.schema)]

def columns : Columns RelationalAccess :=
  ((Columns.field "host" readString).and ((Columns.field "port" readUInt16).and
    ((Columns.field "username" readString).and ((Columns.field "password" readString).and
      ((Columns.field "dbname" readString).and (Columns.field "schema" readString)))))).build
    fun (host, port, username, password, database, schema) =>
      { host, port, username, password := ⟨password⟩, database, schema }

def inspect (access : RelationalAccess) : String :=
  inspectRecord "PostgresConfig"
    [("host", quoted access.host), ("port", portText access.port),
      ("username", quoted access.username), ("password", access.password.inspect),
      ("dbname", quoted access.database), ("schema", quoted access.schema)]

end RelationalAccess

/-! ### The series store -/

/-- How the series store is reached. -/
structure SeriesAccess where
  url : String

namespace SeriesAccess

def fragment (access : SeriesAccess) : Fragment where
  sectionName := "VICTORIA_METRICS"
  entries := [("URL", access.url)]

def columns : Columns SeriesAccess :=
  (Columns.field "url" readString).build SeriesAccess.mk

def inspect (access : SeriesAccess) : String :=
  inspectRecord "VictoriaMetricsConfig" [("url", quoted access.url)]

end SeriesAccess

/-! ### The column store -/

/-- The topic that the column store ingests. -/
structure ColumnAccess where
  topic : String

namespace ColumnAccess

def fragment (access : ColumnAccess) : Fragment where
  sectionName := "DRUID"
  entries := [("TOPIC", access.topic)]

def columns : Columns ColumnAccess :=
  (Columns.field "topic" readString).build ColumnAccess.mk

def inspect (access : ColumnAccess) : String :=
  inspectRecord "DruidConfig" [("topic", quoted access.topic)]

end ColumnAccess

/-! ### Observation -/

/-- How a service is observed. -/
structure Monitoring where
  serviceName : String
  metricsPort : UInt16 := 58105
  statusPort : UInt16 := 3000

namespace Monitoring

def fragment (monitoring : Monitoring) : Fragment where
  sectionName := "MONITORING"
  entries :=
    [("OTEL_SERVICE_NAME", monitoring.serviceName),
      ("METRICS_PORT", portText monitoring.metricsPort),
      ("STATUS_PORT", portText monitoring.statusPort)]

def columns : Columns Monitoring :=
  ((Columns.field "otel_service_name" readString).and
    ((Columns.field "metrics_port" readUInt16).and (Columns.field "status_port" readUInt16))).build
    fun (serviceName, metricsPort, statusPort) => { serviceName, metricsPort, statusPort }

def inspect (monitoring : Monitoring) : String :=
  inspectRecord "MonitoringConfig"
    [("otel_service_name", quoted monitoring.serviceName),
      ("metrics_port", portText monitoring.metricsPort),
      ("status_port", portText monitoring.statusPort)]

end Monitoring

end Testbed
