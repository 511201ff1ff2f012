import Mathlib.Tactic.Common
import Turnstile.Overrides

/-! The fields of a configuration, one by one. A configuration is nothing but its eight fields, and what is
written to one of them is found there and nowhere else. -/
namespace Turnstile.Override.Leaf

/-- What the field holds. -/
abbrev Value : Leaf → Type
  | users => Users
  | privileged => List String
  | defaultRoute => Route
  | serviceName => String
  | logEnabled => Bool
  | logLevel => String
  | logFormat => LogFormat
  | metricsEnabled => Bool

/-- The field of a configuration. -/
def get (c : Config) : (leaf : Leaf) → leaf.Value
  | users => c.credentials.users
  | privileged => c.routing.privileged
  | defaultRoute => c.routing.defaultRoute
  | serviceName => c.telemetry.serviceName
  | logEnabled => c.telemetry.logging.enabled
  | logLevel => c.telemetry.logging.level
  | logFormat => c.telemetry.logging.format
  | metricsEnabled => c.telemetry.metrics.enabled

/-- The configuration with this value in the field. -/
def put (c : Config) : (leaf : Leaf) → leaf.Value → Config
  | users, v => { c with credentials := ⟨v⟩ }
  | privileged, v => { c with routing := { c.routing with privileged := v } }
  | defaultRoute, v => { c with routing := { c.routing with defaultRoute := v } }
  | serviceName, v => { c with telemetry := { c.telemetry with serviceName := v } }
  | logEnabled, v =>
    { c with telemetry := { c.telemetry with logging := { c.telemetry.logging with enabled := v } } }
  | logLevel, v =>
    { c with telemetry := { c.telemetry with logging := { c.telemetry.logging with level := v } } }
  | logFormat, v =>
    { c with telemetry := { c.telemetry with logging := { c.telemetry.logging with format := v } } }
  | metricsEnabled, v => { c with telemetry := { c.telemetry with metrics := ⟨v⟩ } }

/-- The value that a text stands for, if it is acceptable for the field. -/
def read? : (leaf : Leaf) → String → Option leaf.Value
  | users, text => users? text
  | privileged, text => some (list text)
  | defaultRoute, text => choice? Route.all Route.name text
  | serviceName, text => some text
  | logEnabled, text => boolean? text
  | logLevel, text => some text
  | logFormat, text => choice? LogFormat.all LogFormat.name text
  | metricsEnabled, text => boolean? text

lemma mem_all (leaf : Leaf) : leaf ∈ all := by cases leaf <;> decide

lemma get_put (c : Config) (leaf : Leaf) (v : leaf.Value) : get (put c leaf v) leaf = v := by
  cases leaf <;> rfl

lemma get_put_of_ne (c : Config) {leaf other : Leaf} (h : other ≠ leaf) (v : leaf.Value) :
    get (put c leaf v) other = get c other := by
  cases leaf <;> cases other <;> first | rfl | exact absurd rfl h

lemma config_ext {c d : Config} (h : get c = get d) : c = d := by
  obtain ⟨⟨u⟩,⟨p,r⟩,⟨n,⟨e,l,f⟩,⟨m⟩⟩⟩ := c
  have hl (leaf : Leaf) := congrFun h leaf
  cases hl users
  cases hl privileged
  cases hl defaultRoute
  cases hl serviceName
  cases hl logEnabled
  cases hl logLevel
  cases hl logFormat
  cases hl metricsEnabled
  rfl

/-- A variable writes its field, with the value that its text stands for. -/
lemma set_eq_map_read? (leaf : Leaf) (text : String) (c : Config) :
    set leaf text c = (leaf.read? text).map (put c leaf) := by
  cases leaf <;> rfl

end Turnstile.Override.Leaf
