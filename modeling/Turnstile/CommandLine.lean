import Turnstile.Loader
import Turnstile.LogText
import Turnstile.Service

/-! The command line: one login attempt, and its outcome on one line. -/
namespace Turnstile

/-- What the arguments ask for. -/
inductive Command where
  | login (attempt : Attempt)
  | help
  | version
  deriving DecidableEq, Repr

/-- Why the arguments are refused. -/
inductive UsageError where
  | unknownArgument (argument : String)
  | wrongCount (count : Nat)
  deriving DecidableEq, Repr

def UsageError.message : UsageError → String
  | unknownArgument argument => "Unknown argument: " ++ argument
  | wrongCount count =>
    "Expected <IDENTITY> <SECRET>, got " ++ toString count ++ " argument(s)"

namespace Command

/-- Takes the arguments for an identity and a secret. -/
def ofPair : List String → Except UsageError Command
  | [identity, secret] => .ok (.login ⟨identity, secret⟩)
  | arguments => .error (.wrongCount arguments.length)

/-- Begins with a dash and is more than one. -/
def looksLikeOption (argument : String) : Bool :=
  match argument.toList with
  | '-' :: _ :: _ => true
  | _ => false

/-- Reads the arguments. Only the first can be an option: after it stands an identity or nothing. -/
def parse : List String → Except UsageError Command
  | [] => ofPair []
  | first :: rest =>
    if first = "--" then ofPair rest
    else if first = "--help" || first = "-h" then .ok .help
    else if first = "--version" || first = "-v" then .ok .version
    else if looksLikeOption first then .error (.unknownArgument first)
    else ofPair (first :: rest)

end Command

/-- What a run of the program leaves behind. -/
structure Run where
  exit : Nat
  stdout : String
  /-- What is written beside the log. -/
  stderr : String
  log : Log.Lines

namespace Program

def helpText : String :=
"Gatehouse - login gate pipeline

USAGE:
    gatehouse [OPTIONS] [--] <IDENTITY> <SECRET>

    Options must come before the identity. Use `--` when the identity
    itself starts with `-`.

OPTIONS:
    -h, --help       Print help information
    -v, --version    Print version information

ENVIRONMENT VARIABLES:
    GATEHOUSE_CONFIG                          Configuration file (default: gatehouse.toml if present)
    GATEHOUSE__CREDENTIALS__USERS             Users as identity:secret pairs, comma separated
    GATEHOUSE__ROUTING__PRIVILEGED            Identities routed to admin, comma separated
    GATEHOUSE__ROUTING__DEFAULT_ROUTE         Route for implicit accepts (admin|standard)
    GATEHOUSE__TELEMETRY__LOGGING__LEVEL      Log filter directives (default: info)
    GATEHOUSE__TELEMETRY__LOGGING__FORMAT     json|pretty

EXIT STATUS:
    0  login granted
    1  login denied
    2  usage or runtime error

EXAMPLES:
    gatehouse admin admin
    GATEHOUSE__TELEMETRY__LOGGING__LEVEL=debug gatehouse user user
"

def versionText : String := "gatehouse 0.1.0"

/-- The variable that names the file of the configuration. -/
def fileVariable : String := "GATEHOUSE_CONFIG"

/-- The file of the configuration unless told otherwise. It need not exist. -/
def defaultFile : String := "gatehouse.toml"

/-- The front of the variables that override the configuration. -/
def scope : String := "GATEHOUSE"

/-- Why a run comes to no outcome. The context says what was being done. -/
inductive Stop where
  | config (context : List String) (error : ConfigError)
  | telemetry (context : List String) (error : TelemetryError)
  | login (failure : Failure)
  deriving DecidableEq, Repr

/-- The texts of the error, the outermost first. -/
def Stop.chain : Stop → List String
  | config context error => context ++ error.message :: error.causes
  | telemetry context error => context ++ [error.message]
  | login failure => failure.message :: failure.causes

/-- Something broke down on the way. -/
def Stop.isCrash : Stop → Bool
  | config _ .aborted => true
  | telemetry _ .aborted => true
  | _ => false

/-- With a context for its error. -/
def inContext (context : List String) : Except ConfigError α → Except Stop α
  | .ok a => .ok a
  | .error e => .error (.config context e)

/-- The path of the file that has to be there, if one is named. -/
def namedFile? (env : Environment) : Option String := env.get? fileVariable

/-- The configuration: of a file, with variables on top of it. A file of variables is read first, so it
may name the file of the configuration. -/
def loadConfig (w : World) : Except Stop Config := do
  let w ← inContext [] w.withDotEnv
  let loader := Loader.start.withDefaults
  let loader ← match namedFile? w.env with
    | some path => inContext ["loading " ++ path] (loader.withFile w path)
    | none => inContext [] (loader.withOptionalFile w defaultFile)
  inContext ["invalid configuration"] ((loader.withScope scope).load w.env)

/-- How telemetry is set up: the log goes where the outcome does not. -/
def telemetryOf (c : Config) : TelemetryConfig :=
  let t := c.telemetry.telemetryConfig
  { t with logging := t.logging.withWriter .stderr }

/-- Nothing has been started yet. -/
def fresh : Installed := ⟨false, false⟩

/-- Decides about an attempt under a configuration, with all that is logged on the way. -/
def evaluate (c : Config) (took : Duration) (attempt : Attempt) :
    Traced (Except Stop (Started × Outcome)) :=
  (startTelemetry fresh (telemetryOf c)).bind fun
    | .error e => .plain (.error (.telemetry ["failed to initialize telemetry"] e))
    | .ok started =>
      Traced.preceded [.log ⟨[], .configLoaded c.inspect⟩]
        (((Service.ofConfig 0 c).login took attempt).bind fun
          | .error failure =>
            ⟨.error (.login failure), [.log ⟨[], .loginAbandoned failure.message⟩]⟩
          | .ok outcome => .plain (.ok (started, outcome)))

/-- What is written of the log of a run. -/
def logOf (c : Config) (started : Started) (trace : List Effect) : Log.Lines :=
  match started.filter with
  | none => Log.silent
  | some filter => Log.write (telemetryOf c).logging.jsonFormat filter (Trace.entries trace)

/-- A run that came to no outcome. -/
def stopped (stop : Stop) : Run :=
  if stop.isCrash then ⟨101, "", "", Log.silent⟩
  else ⟨2, "", "error: " ++ ": ".intercalate stop.chain ++ "\n", Log.silent⟩

/-- A run that came to an outcome. -/
def decided (outcome : Outcome) (log : Log.Lines) : Run where
  exit := if outcome.isGranted then 0 else 1
  stdout := outcome.toNode.toJson ++ "\n"
  stderr := ""
  log := log

/-- A login from start to end. -/
def runLogin (w : World) (took : Duration) (attempt : Attempt) : Run :=
  match loadConfig w with
  | .error stop => stopped stop
  | .ok c =>
    let result := evaluate c took attempt
    match result.answer with
    | .error stop => stopped stop
    | .ok (started, outcome) => decided outcome (logOf c started result.trace)

/-- A run of the program. -/
def run (w : World) (took : Duration) (arguments : List String) : Run :=
  match Command.parse arguments with
  | .ok (.login attempt) => runLogin w took attempt
  | .ok .help => ⟨0, helpText ++ "\n", "", Log.silent⟩
  | .ok .version => ⟨0, versionText ++ "\n", "", Log.silent⟩
  | .error e => ⟨2, "", e.message ++ "\nUse --help for usage information\n", Log.silent⟩

end Program

end Turnstile
