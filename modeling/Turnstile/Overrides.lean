import Turnstile.Config.Check
import Turnstile.Environment

/-! Variables that override parts of a configuration. Their names are a front, two underscores and the
path of a field; eight fields have one. -/
namespace Turnstile.Override

/-- A truth value in one of the usual words. -/
def boolean? (s : String) : Option Bool :=
  if ["true", "1", "yes", "on"].any (Text.readsAs s) then some true
  else if ["false", "0", "no", "off"].any (Text.readsAs s) then some false
  else none

/-- The items between commas, without the blanks around them and without the empty ones. -/
def list (s : String) : List String :=
  ((Text.pieces ',' s.toList).map Text.trim).filterMap fun item =>
    if item.isEmpty then none else some (String.ofList item)

/-- An identity and a secret with a colon between them. The secret may have colons of its own. -/
def pair? (item : List Char) : Option (String × String) :=
  (Text.cutAt ':' item).map fun (identity, secret) =>
    (String.ofList (Text.trim identity), String.ofList secret)

/-- Pairs between commas, of which the later stands for its identity. Nothing if one has no colon. -/
def users? (s : String) : Option Users :=
  let items := ((Text.pieces ',' s.toList).map Text.trim).filter (!·.isEmpty)
  (items.mapM pair?).map Users.ofList

/-- One of several named values, whatever the case of its letters. -/
def choice? (values : List α) (nameOf : α → String) (s : String) : Option α :=
  values.find? fun value => Text.readsAs s (nameOf value)

/-- The fields that a variable can override. -/
inductive Leaf where
  | users
  | privileged
  | defaultRoute
  | serviceName
  | logEnabled
  | logLevel
  | logFormat
  | metricsEnabled
  deriving DecidableEq, Repr

namespace Leaf

def all : List Leaf :=
  [users, privileged, defaultRoute, serviceName, logEnabled, logLevel, logFormat, metricsEnabled]

/-- The path of the field, as variables name it. -/
def path : Leaf → List String
  | users => ["CREDENTIALS", "USERS"]
  | privileged => ["ROUTING", "PRIVILEGED"]
  | defaultRoute => ["ROUTING", "DEFAULT_ROUTE"]
  | serviceName => ["TELEMETRY", "SERVICE_NAME"]
  | logEnabled => ["TELEMETRY", "LOGGING", "ENABLED"]
  | logLevel => ["TELEMETRY", "LOGGING", "LEVEL"]
  | logFormat => ["TELEMETRY", "LOGGING", "FORMAT"]
  | metricsEnabled => ["TELEMETRY", "METRICS", "ENABLED"]

/-- The name of the variable. -/
def variableName (scope : String) (leaf : Leaf) : String := scope ++ "__" ++ "__".intercalate leaf.path

/-- What an unacceptable value should have been. -/
def expected : Leaf → String
  | users => "expected 'identity:secret' pairs"
  | defaultRoute => "expected 'admin' or 'standard'"
  | logFormat => "expected 'json' or 'pretty'"
  | _ => "expected boolean"

end Leaf

/-- The configuration with one field overridden; nothing if the value is not acceptable. -/
def set (leaf : Leaf) (value : String) (c : Config) : Option Config :=
  match leaf with
  | .users => (users? value).map fun users => { c with credentials := ⟨users⟩ }
  | .privileged => some { c with routing := { c.routing with privileged := list value } }
  | .defaultRoute =>
    (choice? Route.all Route.name value).map fun route =>
      { c with routing := { c.routing with defaultRoute := route } }
  | .serviceName => some { c with telemetry := { c.telemetry with serviceName := value } }
  | .logEnabled =>
    (boolean? value).map fun enabled =>
      { c with telemetry := { c.telemetry with
          logging := { c.telemetry.logging with enabled := enabled } } }
  | .logLevel =>
    some { c with telemetry := { c.telemetry with
      logging := { c.telemetry.logging with level := value } } }
  | .logFormat =>
    (choice? LogFormat.all LogFormat.name value).map fun format =>
      { c with telemetry := { c.telemetry with
          logging := { c.telemetry.logging with format := format } } }
  | .metricsEnabled =>
    (boolean? value).map fun enabled =>
      { c with telemetry := { c.telemetry with metrics := ⟨enabled⟩ } }

/-- The field that a variable overrides, if any. -/
def leaf? (scope name : String) : Option Leaf := do
  let rest ← Text.after? (scope ++ "__").toList name.toList
  let path := (Text.segments rest).map String.ofList
  Leaf.all.find? (·.path = path)

/-- The configuration with one variable taken into account. -/
def applyVariable (scope : String) (c : Config) (name value : String) : Except ConfigError Config :=
  match leaf? scope name with
  | none => .ok c
  | some leaf =>
    match set leaf value c with
    | some c => .ok c
    | none => .error (.badVariable name leaf.expected)

/-- The configuration with variables taken into account, one after another. -/
def applyVariables (scope : String) (c : Config) : List (String × String) → Except ConfigError Config
  | [] => .ok c
  | (name, value) :: rest => do
    let c ← applyVariable scope c name value
    applyVariables scope c rest

/-- The configuration with all variables taken into account, in the order of their names. -/
def apply (scope : String) (env : Environment) (c : Config) : Except ConfigError Config :=
  applyVariables scope c env.sorted

end Turnstile.Override
