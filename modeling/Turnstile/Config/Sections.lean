import Turnstile.Store
import Turnstile.Telemetry

/-! The configuration: who may come in, where they are led, and what is logged and measured. -/
namespace Turnstile

/-- The identities that are known, and their secrets. -/
structure CredentialsSection where
  users : Users
  deriving DecidableEq

/-- Which identities are led to the administration. -/
structure RoutingSection where
  privileged : List String
  /-- The route of an attempt that no gate settles. -/
  defaultRoute : Route
  deriving DecidableEq, Repr

inductive LogFormat where
  /-- One JSON object per line. -/
  | json
  /-- Several lines for people to read. -/
  | pretty
  deriving DecidableEq, Repr

instance : Inhabited LogFormat := ⟨.json⟩

structure LoggingSection where
  enabled : Bool
  /-- The directives of the filter. -/
  level : String
  format : LogFormat
  deriving DecidableEq, Repr

structure MetricsSection where
  enabled : Bool
  deriving DecidableEq, Repr

structure TelemetrySection where
  /-- The name that logs and metrics bear. -/
  serviceName : String
  logging : LoggingSection
  metrics : MetricsSection
  deriving DecidableEq, Repr

structure Config where
  credentials : CredentialsSection
  routing : RoutingSection
  telemetry : TelemetrySection
  deriving DecidableEq

/-- The demonstration users. -/
def CredentialsSection.default : CredentialsSection := ⟨.demo⟩

/-- The store of these users, with this label: their pairs collected anew. -/
def CredentialsSection.store (label : Nat) (s : CredentialsSection) : Store :=
  .inMemory label (.ofList s.users.entries)

/-- The identities that are led to the administration unless told otherwise. -/
def defaultPrivileged : List String := ["admin"]

def RoutingSection.default : RoutingSection := ⟨defaultPrivileged, Inhabited.default⟩

/-- The directives of the filter unless told otherwise. -/
def defaultLevel : String := "info"

def LoggingSection.default : LoggingSection := ⟨true, defaultLevel, Inhabited.default⟩

def MetricsSection.default : MetricsSection := ⟨Inhabited.default⟩

def TelemetrySection.default : TelemetrySection := ⟨defaultServiceName, .default, .default⟩

namespace LogFormat

def name : LogFormat → String
  | json => "json"
  | pretty => "pretty"

def all : List LogFormat := [json, pretty]

def inspect : LogFormat → String
  | json => "Json"
  | pretty => "Pretty"

end LogFormat

namespace Config

def default : Config := ⟨.default, .default, .default⟩

/-- The defaults with this level and format of the log. -/
def withLog (config : Config) (level : String) (format : LogFormat) : Config :=
  { config with telemetry := { config.telemetry with
      logging := { config.telemetry.logging with level := level, format := format } } }

/-- For people: every decision is logged. -/
def development : Config := default.withLog "debug" .pretty

/-- For programs, with metrics. -/
def production : Config :=
  let config := default.withLog "info" .json
  { config with telemetry := { config.telemetry with metrics := ⟨true⟩ } }

end Config

/-- How diagnostics show the users: by their identities only. -/
def CredentialsSection.inspect (s : CredentialsSection) : String :=
  Text.record "CredentialsSection"
    [("users", Text.listed (s.users.identities.map Text.quoted))]

def RoutingSection.inspect (s : RoutingSection) : String :=
  Text.record "RoutingSection" [("privileged", Text.listed (s.privileged.map Text.quoted)),
    ("default_route", s.defaultRoute.inspect)]

def LoggingSection.inspect (s : LoggingSection) : String :=
  Text.record "LoggingSection" [("enabled", Text.truth s.enabled), ("level", Text.quoted s.level),
    ("format", s.format.inspect)]

def MetricsSection.inspect (s : MetricsSection) : String :=
  Text.record "MetricsSection" [("enabled", Text.truth s.enabled)]

def TelemetrySection.inspect (s : TelemetrySection) : String :=
  Text.record "TelemetrySection" [("service_name", Text.quoted s.serviceName),
    ("logging", s.logging.inspect), ("metrics", s.metrics.inspect)]

def Config.inspect (c : Config) : String :=
  Text.record "GatehouseConfig" [("credentials", c.credentials.inspect),
    ("routing", c.routing.inspect), ("telemetry", c.telemetry.inspect)]

namespace TelemetrySection

/-- How logging is set up: a preset by the format, and the rest as configured. -/
def logConfig (s : TelemetrySection) : LogConfig :=
  let preset := match s.logging.format with
    | .json => LogConfig.production
    | .pretty => LogConfig.development
  { preset with
    enabled := s.logging.enabled
    level := s.logging.level
    serviceName := s.serviceName }

/-- How metrics are set up. -/
def metricsConfig (s : TelemetrySection) : MetricsConfig :=
  { MetricsConfig.default with
    enabled := s.metrics.enabled
    serviceName := s.serviceName }

/-- How both are set up. -/
def telemetryConfig (s : TelemetrySection) : TelemetryConfig :=
  ((TelemetryConfig.named s.serviceName).withLogging s.logConfig).withMetrics s.metricsConfig

end TelemetrySection

end Turnstile
