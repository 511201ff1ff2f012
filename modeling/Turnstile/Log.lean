import Turnstile.Decision
import Turnstile.Document.Node
import Turnstile.Failure

/-! The log: what is worth a line, at which level and under which target, and the spans of work that
surround it. -/
namespace Turnstile.Log

/-- How much a line matters. -/
inductive Level where
  | trace
  | debug
  | info
  | warn
  | error
  deriving DecidableEq, Repr

/-- The rank of a level, the most detailed the highest. -/
def Level.detail : Level → Nat
  | error => 1
  | warn => 2
  | info => 3
  | debug => 4
  | trace => 5

def Level.name : Level → String
  | trace => "TRACE"
  | debug => "DEBUG"
  | info => "INFO"
  | warn => "WARN"
  | error => "ERROR"

/-- A stretch of work that events happen in. -/
inductive Span where
  | login (identity : String)
  | evaluation (identity : String) (gates : Nat)
  deriving DecidableEq, Repr

/-- Something that happened. -/
inductive Event where
  | gateDecided (gate : String) (position : Nat) (decision : Decision)
  | gateFailed (gate : String) (position : Nat) (failure : Failure)
  | loginFailed (failure : Failure)
  | loginEvaluated (outcome : Outcome) (decidedBy : Option String) (gatesRun : Nat)
  | loggingStarted (service level : String)
  | recorderInstalled (service : String)
  /-- `config` is the configuration as diagnostics show it. -/
  | configLoaded (config : String)
  | loginAbandoned (message : String)
  deriving DecidableEq, Repr

/-- An event and the spans around it, from the outermost. -/
structure Entry where
  spans : List Span
  event : Event
  deriving DecidableEq, Repr

namespace Span

def name : Span → String
  | login _ => "login"
  | evaluation _ _ => "evaluate_traced"

def level : Span → Level
  | login _ => .info
  | evaluation _ _ => .debug

def target : Span → String
  | login _ => "gatehouse::service"
  | evaluation _ _ => "gatehouse_pipeline::pipeline"

def fields : Span → List (String × Node)
  | login identity => [("identity", .text identity)]
  | evaluation identity gates => [("identity", .text identity), ("gates", .integer gates)]

end Span

namespace Event

def level : Event → Level
  | gateDecided .. => .debug
  | gateFailed .. => .warn
  | loginFailed _ => .warn
  | loginEvaluated .. => .info
  | loggingStarted .. => .info
  | recorderInstalled _ => .debug
  | configLoaded _ => .debug
  | loginAbandoned _ => .error

def target : Event → String
  | gateDecided .. => "gatehouse_pipeline::pipeline"
  | gateFailed .. => "gatehouse_pipeline::pipeline"
  | loginFailed _ => "gatehouse::service"
  | loginEvaluated .. => "gatehouse::service"
  | loggingStarted .. => "gatehouse_telemetry::logging"
  | recorderInstalled _ => "gatehouse_telemetry"
  | configLoaded _ => "gatehouse"
  | loginAbandoned _ => "gatehouse"

def message : Event → String
  | gateDecided .. => "gate decided"
  | gateFailed .. => "gate failed"
  | loginFailed _ => "Login evaluation failed"
  | loginEvaluated .. => "Login evaluated"
  | loggingStarted .. => "Logging initialized"
  | recorderInstalled _ => "Metrics recorder installed"
  | configLoaded _ => "Configuration loaded"
  | loginAbandoned _ => "Login could not be evaluated"

/-- A field that is left out when it has no value. -/
def optionalField (name : String) : Option String → List (String × Node)
  | none => []
  | some value => [(name, .text value)]

/-- The fields beside the message, in order. -/
def fields : Event → List (String × Node)
  | gateDecided gate position decision =>
    [("gate", .text gate), ("position", .integer position), ("decision", .text decision.label)]
  | gateFailed gate position failure =>
    [("gate", .text gate), ("position", .integer position), ("error", .text failure.message)]
  | loginFailed failure =>
    [("error", .text failure.message), ("retryable", .boolean failure.isRetryable)]
  | loginEvaluated outcome decidedBy gatesRun =>
    ("outcome", .text outcome.label) :: optionalField "route" (outcome.route?.map Route.name) ++
      optionalField "reason" (outcome.reason?.map Reason.code) ++
      optionalField "decided_by" decidedBy ++ [("gates_run", .integer gatesRun)]
  | loggingStarted service level => [("service", .text service), ("level", .text level)]
  | recorderInstalled service => [("service", .text service)]
  | configLoaded config => [("config", .text config)]
  | loginAbandoned message => [("error", .text message)]

/-- The names of all fields that such an event can have, with a value or without. -/
def fieldNames : Event → List String
  | gateDecided .. => ["message", "gate", "position", "decision"]
  | gateFailed .. => ["message", "gate", "position", "error"]
  | loginFailed _ => ["message", "error", "retryable"]
  | loginEvaluated .. =>
    ["message", "outcome", "route", "reason", "decided_by", "gates_run", "duration_us"]
  | loggingStarted .. => ["message", "service", "level"]
  | recorderInstalled _ => ["message", "service"]
  | configLoaded _ => ["message", "config"]
  | loginAbandoned _ => ["message", "error"]

end Event

end Turnstile.Log
