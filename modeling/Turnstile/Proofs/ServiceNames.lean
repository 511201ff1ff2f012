import Turnstile.Proofs.Basics
import Turnstile.Telemetry

/-! One name for the service in all settings of telemetry. Whatever calls set parts of the settings, in any order
and number, the log and the metrics go by the name of the whole, and all else that is set of them is what the
last call about them says. -/
namespace Turnstile.TelemetryConfig

/-- A call that sets a part of the settings. -/
inductive Call where
  | serviceName (name : String)
  | logging (config : LogConfig)
  | metrics (config : MetricsConfig)

/-- The parts that calls set. -/
inductive Part where
  | serviceName
  | logging
  | metrics
  deriving DecidableEq

namespace Call

def apply (t : TelemetryConfig) : Call → TelemetryConfig
  | serviceName name => t.withServiceName name
  | logging config => t.withLogging config
  | metrics config => t.withMetrics config

def part : Call → Part
  | serviceName _ => .serviceName
  | logging _ => .logging
  | metrics _ => .metrics

def serviceName? : Call → Option String
  | serviceName name => some name
  | _ => none

def logging? : Call → Option LogConfig
  | logging config => some config
  | _ => none

def metrics? : Call → Option MetricsConfig
  | metrics config => some config
  | _ => none

lemma isSome_serviceName? (call : Call) : call.serviceName?.isSome = true ↔ call.part = .serviceName := by
  cases call <;> simp [serviceName?, part]

lemma isSome_logging? (call : Call) : call.logging?.isSome = true ↔ call.part = .logging := by
  cases call <;> simp [logging?, part]

lemma isSome_metrics? (call : Call) : call.metrics?.isSome = true ↔ call.part = .metrics := by
  cases call <;> simp [metrics?, part]

/-- The same call with another name inside the settings that it brings. -/
def carrying (name : String) : Call → Call
  | serviceName own => serviceName own
  | logging config => logging { config with serviceName := name }
  | metrics config => metrics { config with serviceName := name }

/-- A name inside the settings that a call brings makes no difference. -/
lemma apply_carrying (t : TelemetryConfig) (name : String) (call : Call) :
    (call.carrying name).apply t = call.apply t := by
  cases call <;> rfl

lemma apply_comm (t : TelemetryConfig) {a b : Call} (h : a.part ≠ b.part) :
    b.apply (a.apply t) = a.apply (b.apply t) := by
  cases a with
  | serviceName name =>
    cases b with
    | serviceName other => exact absurd rfl h
    | logging config => rfl
    | metrics config => rfl
  | logging config =>
    cases b with
    | serviceName name => rfl
    | logging other => exact absurd rfl h
    | metrics other => rfl
  | metrics config =>
    cases b with
    | serviceName name => rfl
    | logging other => rfl
    | metrics other => exact absurd rfl h

end Call

/-- The settings to start from: the default ones, under their own name or under another. -/
def start : Option String → TelemetryConfig
  | none => default
  | some name => named name

/-- The settings after these calls. -/
def afterAll (t : TelemetryConfig) (calls : List Call) : TelemetryConfig := calls.foldl Call.apply t

/-- The log and the metrics go by the name of the whole. -/
structure OneName (t : TelemetryConfig) : Prop where
  logging : t.logging.serviceName = t.serviceName
  metrics : t.metrics.serviceName = t.serviceName

/-- These settings for the log and for the metrics, both under this name. -/
def under (name : String) (logging : LogConfig) (metrics : MetricsConfig) : TelemetryConfig where
  serviceName := name
  logging := { logging with serviceName := name }
  metrics := { metrics with serviceName := name }

section Calls
variable (name : String) (logging : LogConfig) (metrics : MetricsConfig) (calls : List Call)

lemma oneName_under : (under name logging metrics).OneName := ⟨rfl,rfl⟩

lemma start_eq_under (initial : Option String) :
    start initial = under (initial.getD defaultServiceName) .default .disabled := by
  cases initial <;> rfl

lemma apply_under (call : Call) :
    call.apply (under name logging metrics) =
      under (call.serviceName?.getD name) (call.logging?.getD logging) (call.metrics?.getD metrics) := by
  cases call <;> rfl

/-- After any calls there is still one name, and each part is what the last call about it says. -/
lemma afterAll_under :
    (under name logging metrics).afterAll calls =
      under ((Calls.last? Call.serviceName? calls).getD name)
        ((Calls.last? Call.logging? calls).getD logging)
        ((Calls.last? Call.metrics? calls).getD metrics) := by
  -- each call leaves settings of the same form, so the induction is over all of them
  induction calls generalizing name logging metrics with
  | nil => rfl
  | cons call calls ih =>
    have hs : (under name logging metrics).afterAll (call :: calls) =
        (call.apply (under name logging metrics)).afterAll calls := rfl
    rw [hs, apply_under, ih]
    simp only [Calls.last?_cons, Option.getD_or]

lemma afterAll_start (initial : Option String) :
    (start initial).afterAll calls =
      under ((Calls.last? Call.serviceName? calls).getD (initial.getD defaultServiceName))
        ((Calls.last? Call.logging? calls).getD .default)
        ((Calls.last? Call.metrics? calls).getD .disabled) := by
  rw [start_eq_under, afterAll_under]

variable {calls} {others : List Call}

/-- The last call about a part does not depend on the calls about the others. -/
lemma last?_congr {α : Type} {sets? : Call → Option α} {part : Part}
    (hs : ∀ call, (sets? call).isSome = true ↔ call.part = part)
    (h : others.filter (·.part = part) = calls.filter (·.part = part)) :
    Calls.last? sets? others = Calls.last? sets? calls := by
  have hk : ∀ call, (sets? call).isSome = true → decide (call.part = part) = true := fun call hc =>
    decide_eq_true ((hs call).mp hc)
  rw [← Calls.last?_filter sets? hk, h, Calls.last?_filter sets? hk]

lemma afterAll_start_congr (initial : Option String)
    (h : ∀ part, others.filter (·.part = part) = calls.filter (·.part = part)) :
    (start initial).afterAll others = (start initial).afterAll calls := by
  have hn := last?_congr Call.isSome_serviceName? (h .serviceName)
  have hl := last?_congr Call.isSome_logging? (h .logging)
  have hm := last?_congr Call.isSome_metrics? (h .metrics)
  rw [afterAll_start, afterAll_start, hn, hl, hm]

lemma afterAll_carrying (t : TelemetryConfig)
    (h : List.Forall₂ (fun call other => ∃ carried, other = call.carrying carried) calls others) :
    t.afterAll others = t.afterAll calls := by
  induction h generalizing t with
  | nil => rfl
  | @cons call other calls others hc _ ih =>
    obtain ⟨carried,rfl⟩ := hc
    change ((call.carrying carried).apply t).afterAll others = (call.apply t).afterAll calls
    rw [Call.apply_carrying, ih]

end Calls

end Turnstile.TelemetryConfig
