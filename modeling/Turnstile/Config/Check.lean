import Turnstile.Config.Document
import Turnstile.Text.Blank

/-! What is wrong with a configuration, and what may go wrong on the way to one. -/
namespace Turnstile

/-- What an unreadable file reports. -/
inductive ReadFault where
  | directory
  | notText
  /-- Any other trouble that the system reports. -/
  | system (error : SystemError)
  deriving DecidableEq, Repr

/-- Why there is no configuration. -/
inductive ConfigError where
  | fileNotFound (path : String)
  | unreadable (path : String) (fault : ReadFault)
  | text (error : TextError)
  /-- The file of variables makes no sense. -/
  | dotEnv
  | invalidValue (field reason : String)
  | badVariable (name reason : String)
  | validation (note : String)
  /-- A reader broke down: there is no error to report. -/
  | aborted
  deriving DecidableEq, Repr

def ReadFault.message : ReadFault → String
  | directory => "Is a directory (os error 21)"
  | notText => "stream did not contain valid UTF-8"
  | system error => error.message

namespace ConfigError

/-- What a reader of the error is told. -/
def message : ConfigError → String
  | fileNotFound path => "configuration file not found: " ++ path
  | unreadable path _ => "failed to read configuration file: " ++ path
  | text ⟨.toml, e⟩ => "failed to parse TOML configuration: " ++ e.message
  | text ⟨.json, e⟩ => "failed to parse JSON configuration: " ++ e.message
  | dotEnv => "failed to load .env file: no line of the form NAME=value"
  | invalidValue field reason => "invalid configuration value for " ++ field ++ ": " ++ reason
  | badVariable name reason =>
    "failed to parse environment variable " ++ name ++ ": " ++ reason
  | validation note => "configuration validation failed: " ++ note
  | aborted => ""

def causes : ConfigError → List String
  | unreadable _ fault => [fault.message]
  | _ => []

end ConfigError

namespace Config

/-- The first thing that is wrong with a configuration. The level of a log that is off is not
looked at. -/
def validate (c : Config) : Except ConfigError Unit :=
  if c.credentials.users.identities.any (·.isEmpty) then
    .error (.invalidValue "credentials.users" "identities must not be empty")
  else if c.routing.privileged.any (·.isEmpty) then
    .error (.invalidValue "routing.privileged" "identities must not be empty")
  else if (Text.trimmed c.telemetry.serviceName).isEmpty then
    .error (.invalidValue "telemetry.service_name" "must not be empty")
  else if c.telemetry.logging.enabled then
    match c.telemetry.logConfig.validate with
    | .ok () => .ok ()
    | .error .aborted => .error .aborted
    | .error e => .error (.invalidValue "telemetry.logging.level" e.message)
  else .ok ()

end Config

end Turnstile
