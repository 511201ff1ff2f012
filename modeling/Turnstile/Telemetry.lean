import Turnstile.Decimal.Style
import Turnstile.Filter.Reading
import Turnstile.Text.Quoted
import Turnstile.Trace

/-! How logging and metrics are set up, and what keeps them from starting. -/
namespace Turnstile

/-- Where log lines go. -/
inductive LogWriter where
  | stdout
  | stderr
  deriving DecidableEq, Repr

/-- How logging is set up. -/
structure LogConfig where
  enabled : Bool
  /-- The directives of the filter. -/
  level : String
  /-- One JSON object per line. -/
  jsonFormat : Bool
  /-- The beginning and the end of a span have lines of their own. -/
  spanEvents : Bool
  fileLineInfo : Bool
  threadIds : Bool
  includeTarget : Bool
  serviceName : String
  writer : LogWriter
  deriving DecidableEq, Repr

/-- How metrics are set up. -/
structure MetricsConfig where
  enabled : Bool
  serviceName : String
  /-- The bounds, in seconds, between which the durations of logins are counted. -/
  buckets : List Float
  deriving Repr

/-- How both are set up. -/
structure TelemetryConfig where
  serviceName : String
  logging : LogConfig
  metrics : MetricsConfig
  deriving Repr

/-- What keeps telemetry from starting. -/
inductive TelemetryError where
  | metricsInit (note : String)
  | loggingInit (note : String)
  | invalidConfig (note : String)
  /-- The reader of filters broke down: there is no error to report. -/
  | aborted
  deriving DecidableEq, Repr

def TelemetryError.message : TelemetryError → String
  | metricsInit note => "Failed to initialize metrics: " ++ note
  | loggingInit note => "Failed to initialize logging: " ++ note
  | invalidConfig note => "Invalid configuration: " ++ note
  | aborted => ""

/-- The name of the service unless told otherwise. -/
def defaultServiceName : String := "gatehouse"

def LogWriter.inspect : LogWriter → String
  | stdout => "Stdout"
  | stderr => "Stderr"

/-- Reads the filter of a log. -/
def createFilter (level : String) : Except TelemetryError Filter :=
  match Filter.read level with
  | .ok filter => .ok filter
  | .error .splitCharacter => .error .aborted
  | .error e => .error (.loggingInit ("Invalid log level: " ++ e.message))

namespace LogConfig

/-- For people: every decision, over several lines. -/
def development : LogConfig where
  enabled := true
  level := "debug"
  jsonFormat := false
  spanEvents := true
  fileLineInfo := true
  threadIds := false
  includeTarget := true
  serviceName := defaultServiceName
  writer := .stdout

/-- For programs: one line each. -/
def production : LogConfig where
  enabled := true
  level := "info"
  jsonFormat := true
  spanEvents := false
  fileLineInfo := false
  threadIds := false
  includeTarget := true
  serviceName := defaultServiceName
  writer := .stdout

/-- No log at all. -/
def disabled : LogConfig := { production with enabled := false }

def default : LogConfig := production

def withLevel (config : LogConfig) (level : String) : LogConfig := { config with level := level }

def withServiceName (config : LogConfig) (name : String) : LogConfig :=
  { config with serviceName := name }

def withWriter (config : LogConfig) (writer : LogWriter) : LogConfig :=
  { config with writer := writer }

/-- Checks the filter without starting anything. -/
def validate (config : LogConfig) : Except TelemetryError Unit :=
  match createFilter config.level with
  | .ok _ => .ok ()
  | .error .aborted => .error .aborted
  | .error e => .error (.invalidConfig ("log level `" ++ config.level ++ "`: " ++ e.message))

def inspect (config : LogConfig) : String :=
  Text.record "LogConfig" [("enabled", Text.truth config.enabled),
    ("level", Text.quoted config.level), ("json_format", Text.truth config.jsonFormat),
    ("span_events", Text.truth config.spanEvents),
    ("file_line_info", Text.truth config.fileLineInfo),
    ("thread_ids", Text.truth config.threadIds),
    ("include_target", Text.truth config.includeTarget),
    ("service_name", Text.quoted config.serviceName), ("writer", config.writer.inspect)]

/-- All settings, as part of a document. -/
def toNode (config : LogConfig) : Node :=
  .tableOf [("enabled", .boolean config.enabled), ("level", .text config.level),
    ("json_format", .boolean config.jsonFormat), ("span_events", .boolean config.spanEvents),
    ("file_line_info", .boolean config.fileLineInfo), ("thread_ids", .boolean config.threadIds),
    ("include_target", .boolean config.includeTarget), ("service_name", .text config.serviceName),
    ("writer", .text config.writer.inspect)]

end LogConfig

namespace MetricsConfig

/-- From a tenth of a millisecond to a second. -/
def defaultBuckets : List Float :=
  [0.0001, 0.0005, 0.001, 0.005, 0.01, 0.025, 0.05, 0.1, 0.25, 0.5, 1.0]

def default : MetricsConfig := ⟨true, defaultServiceName, defaultBuckets⟩

/-- No metrics at all. -/
def disabled : MetricsConfig := { default with enabled := false }

/-- Passes unless there are no buckets. -/
def validate (config : MetricsConfig) : Except TelemetryError Unit :=
  if config.buckets.isEmpty then .error (.invalidConfig "duration_buckets must not be empty")
  else .ok ()

/-- All settings, as part of a document, with the buckets as texts. -/
def toNode (config : MetricsConfig) : Node :=
  .tableOf [("enabled", .boolean config.enabled), ("service_name", .text config.serviceName),
    ("buckets", .listOf (config.buckets.map fun b => .text (Decimal.plain.write b)))]

end MetricsConfig

namespace TelemetryConfig

/-- Logging as in production, and no metrics. -/
def default : TelemetryConfig := ⟨defaultServiceName, .default, .disabled⟩

/-- With this name everywhere. -/
def withServiceName (config : TelemetryConfig) (name : String) : TelemetryConfig where
  serviceName := name
  logging := { config.logging with serviceName := name }
  metrics := { config.metrics with serviceName := name }

/-- The default settings under another name. -/
def named (name : String) : TelemetryConfig := default.withServiceName name

/-- With these settings for the log, but for the name. -/
def withLogging (config : TelemetryConfig) (logging : LogConfig) : TelemetryConfig :=
  { config with logging := { logging with serviceName := config.serviceName } }

/-- With these settings for the metrics, but for the name. -/
def withMetrics (config : TelemetryConfig) (metrics : MetricsConfig) : TelemetryConfig :=
  { config with metrics := { metrics with serviceName := config.serviceName } }

/-- All settings, as part of a document. -/
def toNode (config : TelemetryConfig) : Node :=
  .tableOf [("service_name", .text config.serviceName), ("logging", config.logging.toNode),
    ("metrics", config.metrics.toNode)]

end TelemetryConfig

/-- What a process has started already. Each can be started only once. -/
structure Installed where
  logging : Bool
  metrics : Bool
  deriving DecidableEq, Repr

/-- What was started: the filter of the log, and whether metrics are recorded. -/
structure Started where
  filter : Option Filter
  metrics : Bool
  deriving DecidableEq, Repr

/-- Starts the log, unless it is off. -/
def startLogging (installed : Bool) (config : LogConfig) :
    Traced (Except TelemetryError (Option Filter)) :=
  if config.enabled then
    match createFilter config.level with
    | .error e => .plain (.error e)
    | .ok filter =>
      if installed then
        .plain (.error (.loggingInit "a global default trace dispatcher has already been set"))
      else
        ⟨.ok (some filter), [.log ⟨[], .loggingStarted config.serviceName config.level⟩]⟩
  else .plain (.ok none)

/-- Starts the recording of metrics, unless it is off. -/
def startMetrics (installed : Bool) (config : MetricsConfig) : Except TelemetryError Bool :=
  if config.enabled then
    match config.validate with
    | .error e => .error e
    | .ok () =>
      if installed then
        .error (.metricsInit ("failed to install exporter as global recorder: " ++
          "attempted to set a recorder after the metrics system was already initialized"))
      else .ok true
  else .ok false

/-- Starts the log and then the recording of metrics. -/
def startTelemetry (installed : Installed) (config : TelemetryConfig) :
    Traced (Except TelemetryError Started) :=
  (startLogging installed.logging config.logging).bind fun
    | .error e => .plain (.error e)
    | .ok filter =>
      match startMetrics installed.metrics config.metrics with
      | .error e => .plain (.error e)
      | .ok true => ⟨.ok ⟨filter, true⟩, [.log ⟨[], .recorderInstalled config.serviceName⟩]⟩
      | .ok false => .plain (.ok ⟨filter, false⟩)

end Turnstile
