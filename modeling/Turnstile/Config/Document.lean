import Turnstile.Config.Sections
import Turnstile.Document.Json
import Turnstile.Document.Toml
import Turnstile.Verdicts

/-! Configurations in documents. A field that is left out takes a value of its own, and a section that is left
out is the default section; a field that no section has is refused. -/
namespace Turnstile

def CredentialsSection.toNode (s : CredentialsSection) : Node :=
  .tableOf [("users", .tableOf (s.users.entries.map fun (identity, secret) =>
    (identity, .text secret)))]

def RoutingSection.toNode (s : RoutingSection) : Node :=
  .tableOf [("privileged", .listOf (s.privileged.map .text)), ("default_route", s.defaultRoute.toNode)]

def LogFormat.toNode (f : LogFormat) : Node := .text f.name

def LoggingSection.toNode (s : LoggingSection) : Node :=
  .tableOf [("enabled", .boolean s.enabled), ("level", .text s.level), ("format", s.format.toNode)]

def MetricsSection.toNode (s : MetricsSection) : Node := .tableOf [("enabled", .boolean s.enabled)]

def TelemetrySection.toNode (s : TelemetrySection) : Node :=
  .tableOf [("service_name", .text s.serviceName), ("logging", s.logging.toNode),
    ("metrics", s.metrics.toNode)]

def Config.toNode (c : Config) : Node :=
  .tableOf [("credentials", c.credentials.toNode), ("routing", c.routing.toNode),
    ("telemetry", c.telemetry.toNode)]

namespace Decode

def logFormat : Decoder LogFormat := choice LogFormat.all LogFormat.name

def credentialsFields : List Field := [⟨"users", Users, users, .demo⟩]

def credentialsOf (row : Row credentialsFields) : CredentialsSection where
  users := row (0 : Fin 1)

def credentials : Decoder CredentialsSection :=
  record "CredentialsSection" credentialsFields credentialsOf

def routingFields : List Field :=
  [⟨"privileged", List String, texts, defaultPrivileged⟩, ⟨"default_route", Route, route, default⟩]

def routingOf (row : Row routingFields) : RoutingSection where
  privileged := row (0 : Fin 2)
  defaultRoute := row (1 : Fin 2)

def routing : Decoder RoutingSection := record "RoutingSection" routingFields routingOf

def loggingFields : List Field :=
  [⟨"enabled", Bool, boolean, true⟩, ⟨"level", String, text, defaultLevel⟩,
   ⟨"format", LogFormat, logFormat, default⟩]

def loggingOf (row : Row loggingFields) : LoggingSection where
  enabled := row (0 : Fin 3)
  level := row (1 : Fin 3)
  format := row (2 : Fin 3)

def logging : Decoder LoggingSection := record "LoggingSection" loggingFields loggingOf

def metricsFields : List Field := [⟨"enabled", Bool, boolean, default⟩]

def metricsOf (row : Row metricsFields) : MetricsSection where
  enabled := row (0 : Fin 1)

def metrics : Decoder MetricsSection := record "MetricsSection" metricsFields metricsOf

def telemetryFields : List Field :=
  [⟨"service_name", String, text, defaultServiceName⟩, ⟨"logging", LoggingSection, logging, .default⟩,
   ⟨"metrics", MetricsSection, metrics, .default⟩]

def telemetryOf (row : Row telemetryFields) : TelemetrySection where
  serviceName := row (0 : Fin 3)
  logging := row (1 : Fin 3)
  metrics := row (2 : Fin 3)

def telemetry : Decoder TelemetrySection := record "TelemetrySection" telemetryFields telemetryOf

def configFields : List Field :=
  [⟨"credentials", CredentialsSection, credentials, .default⟩,
   ⟨"routing", RoutingSection, routing, .default⟩, ⟨"telemetry", TelemetrySection, telemetry, .default⟩]

def configOf (row : Row configFields) : Config where
  credentials := row (0 : Fin 3)
  routing := row (1 : Fin 3)
  telemetry := row (2 : Fin 3)

def config : Decoder Config := record "GatehouseConfig" configFields configOf

end Decode

/-- Why a text in some format is not taken. -/
structure TextError where
  format : Format
  error : DecodeError
  deriving DecidableEq, Repr

/-- Reads a text in one of the two formats. -/
def readText (decode : Decoder α) (format : Format) (s : String) : Except TextError α :=
  let document : Document := match format with
    | .json => Json.read s
    | .toml =>
      match Toml.read s with
      | some root => ⟨root, none⟩
      | none => ⟨.faulty .missing .malformed (some .malformed), none⟩
  match document.decode format decode with
  | .ok value => .ok value
  | .error e => .error ⟨format, e⟩

end Turnstile
