import Turnstile.Metrics
import Turnstile.Proofs.Requirements

/-! How telemetry is set up for a configuration. The settings that are derived from a section are those of the
section, so that the checks of the configuration and the start of telemetry come to the same verdict: after
the checks nothing but what was started before can keep telemetry from starting. -/
namespace Turnstile

/-- The settings are those of the section, with its name everywhere. -/
structure TelemetryConfig.Mirrors (t : TelemetryConfig) (s : TelemetrySection) : Prop where
  logEnabled : t.logging.enabled = s.logging.enabled
  logLevel : t.logging.level = s.logging.level
  jsonFormat : t.logging.jsonFormat = true ↔ s.logging.format = .json
  metricsEnabled : t.metrics.enabled = s.metrics.enabled
  serviceName : t.serviceName = s.serviceName
  logServiceName : t.logging.serviceName = s.serviceName
  metricsServiceName : t.metrics.serviceName = s.serviceName

lemma TelemetrySection.telemetryConfig_mirrors (s : TelemetrySection) : s.telemetryConfig.Mirrors s := by
  obtain ⟨name,⟨enabled,level,format⟩,metrics⟩ := s
  cases format <;> constructor <;> simp [telemetryConfig, logConfig, metricsConfig,
    TelemetryConfig.withLogging, TelemetryConfig.withMetrics, TelemetryConfig.named,
    TelemetryConfig.withServiceName, LogConfig.production, LogConfig.development]

/-- A part that is to be started was started before. -/
def Installed.Clashes (installed : Installed) (t : TelemetryConfig) : Prop :=
  (t.logging.enabled = true ∧ installed.logging = true) ∨
    (t.metrics.enabled = true ∧ installed.metrics = true)

lemma createFilter_error {level : String} {e : TelemetryError} (h : createFilter level = .error e) :
    e = .aborted ∨ ∃ note, e = .loggingInit note := by
  rw [createFilter] at h
  split at h
  · cases h
  · cases h
    exact Or.inl rfl
  · cases h
    exact Or.inr ⟨_,rfl⟩

section Logging
variable {config : LogConfig}

lemma startLogging_of_disabled (h : config.enabled = false) (installed : Bool) :
    startLogging installed config = .plain (.ok none) := by
  rw [startLogging, h]
  rfl

lemma startLogging_of_refused (h : config.enabled = true) {e : TelemetryError}
    (hc : createFilter config.level = .error e) (installed : Bool) :
    startLogging installed config = .plain (.error e) := by
  rw [startLogging, h, hc]
  rfl

lemma answer_startLogging_of_filter (h : config.enabled = true) {filter : Filter}
    (hc : createFilter config.level = .ok filter) (installed : Bool) :
    (startLogging installed config).answer =
      if installed then .error (.loggingInit "a global default trace dispatcher has already been set")
      else .ok (some filter) := by
  rw [startLogging, h, hc]
  cases installed <;> rfl

end Logging

lemma startMetrics_of_valid {config : MetricsConfig} (h : config.validate = .ok ()) (installed : Bool) :
    startMetrics installed config =
      if config.enabled = true ∧ installed = true then
        .error (.metricsInit ("failed to install exporter as global recorder: " ++
          "attempted to set a recorder after the metrics system was already initialized"))
      else .ok config.enabled := by
  rw [startMetrics, h]
  cases config.enabled <;> cases installed <;> rfl

section Telemetry
variable {t : TelemetryConfig}

lemma answer_startTelemetry_of_refused {installed : Installed} {e : TelemetryError}
    (h : (startLogging installed.logging t.logging).answer = .error e) :
    (startTelemetry installed t).answer = .error e := by
  rw [startTelemetry, Traced.answer_bind, h]
  rfl

/-- Where the level makes sense and there are buckets, telemetry starts unless a part of it was started
before. -/
lemma startTelemetry_iff_not_clashes
    (hl : t.logging.enabled = true → ∃ filter, createFilter t.logging.level = .ok filter)
    (hm : t.metrics.validate = .ok ()) (installed : Installed) :
    (∃ started, (startTelemetry installed t).answer = .ok started) ↔ ¬ installed.Clashes t := by
  obtain ⟨logging,metrics⟩ := installed
  have hlog : (∃ filter, (startLogging logging t.logging).answer = .ok filter) ↔
      ¬ (t.logging.enabled = true ∧ logging = true) := by
    by_cases he : t.logging.enabled = true
    · obtain ⟨filter,hf⟩ := hl he
      rw [answer_startLogging_of_filter he hf]
      cases logging <;> simp [he]
    · rw [startLogging_of_disabled (by simpa using he)]
      simp [he]
  simp only [Installed.Clashes, not_or, ← hlog]
  rw [startTelemetry, Traced.answer_bind, startMetrics_of_valid hm]
  cases (startLogging logging t.logging).answer with
  | error e => simp
  | ok filter => cases t.metrics.enabled <;> cases metrics <;> simp

end Telemetry

namespace Config
open Requirement
variable {c : Config}

/-- The level that is read when telemetry starts is the one that was checked, and there are always
buckets. -/
lemma starts_iff_not_clashes (h : logLevel.Met c) (installed : Installed) :
    (∃ started, (startTelemetry installed c.telemetry.telemetryConfig).answer = .ok started) ↔
      ¬ installed.Clashes c.telemetry.telemetryConfig :=
  startTelemetry_iff_not_clashes (t := c.telemetry.telemetryConfig) h rfl installed

/-- The level that is read is that of the section. -/
lemma level_telemetryConfig :
    c.telemetry.telemetryConfig.logging.level = c.telemetry.logging.level :=
  (TelemetrySection.telemetryConfig_mirrors _).logLevel

lemma logLevel_met_iff_starts :
    logLevel.Met c ↔
      ∃ started, (startTelemetry ⟨false, false⟩ c.telemetry.telemetryConfig).answer = .ok started := by
  constructor
  · intro h
    exact (starts_iff_not_clashes h _).mpr (by simp [Installed.Clashes])
  · rintro ⟨started,hs⟩ he
    cases hc : createFilter c.telemetry.logging.level with
    | ok filter => exact ⟨filter,rfl⟩
    | error e =>
      have hl : startLogging false c.telemetry.telemetryConfig.logging = .plain (.error e) :=
        startLogging_of_refused he (level_telemetryConfig ▸ hc) false
      cases (answer_startTelemetry_of_refused (congrArg Traced.answer hl)).symm.trans hs

/-- If the level is what is reported, it is the reader of filters that refuses it. -/
lemma refused_of_levelReason {reason : String}
    (h : c.validate = .error (.invalidValue logLevel.field reason)) :
    c.telemetry.logging.enabled = true ∧ ∃ note,
      createFilter c.telemetry.logging.level = .error (.loggingInit note) ∧
        reason = levelReason c.telemetry.logging.level (.loggingInit note) := by
  have hf := firstUnmet_of_validate h
  obtain ⟨he,hn⟩ := Classical.not_imp.mp hf.unmet
  rw [validate_of_named (hf.earlier users (by decide)) (hf.earlier privileged (by decide))
    (hf.earlier serviceName (by decide)), if_pos he] at h
  cases hc : createFilter c.telemetry.logging.level with
  | ok filter => exact absurd ⟨filter,hc⟩ hn
  | error e =>
    rw [hc] at h
    rcases createFilter_error hc with rfl | ⟨note,rfl⟩
    · cases h
    · exact ⟨he,note,rfl,(ConfigError.invalidValue.inj (Except.error.inj h)).2.symm⟩

/-- Under a configuration that passed its checks telemetry starts unless a part of it was started before: the
level that is read then can be read, a level that is not needed is not looked at, and there are buckets. Under
one that was refused for its level it never starts, for the reason that was given. All this is so because the
settings are those of the section, whatever it is like. -/
theorem validate_foretells_start (c : Config) :
    let t := c.telemetry.telemetryConfig
    (c.validate = .ok () →
      (t.logging.enabled = true → ∃ filter, createFilter t.logging.level = .ok filter) ∧
      (∃ recorder, Recorder.start t.metrics = .ok recorder) ∧
      (∀ installed note, startMetrics installed t.metrics ≠ .error (.invalidConfig note)) ∧
      ∀ installed : Installed,
        (∃ started, (startTelemetry installed t).answer = .ok started) ↔ ¬ installed.Clashes t) ∧
    (t.logging.enabled = false →
      ∀ installed level, startLogging installed (t.logging.withLevel level) = .plain (.ok none)) ∧
    (∀ reason, c.validate = .error (.invalidValue logLevel.field reason) →
      ∃ note, reason = levelReason t.logging.level (.loggingInit note) ∧
        (∀ installed, startLogging installed t.logging = .plain (.error (.loggingInit note))) ∧
        ∀ installed, (startTelemetry installed t).answer = .error (.loggingInit note)) ∧
    ((∀ r : Requirement, r ≠ logLevel → r.Met c) →
      (c.validate = .ok () ↔ ∃ started, (startTelemetry ⟨false, false⟩ t).answer = .ok started)) ∧
    ∀ s : TelemetrySection, s.telemetryConfig.Mirrors s := by
  intro t
  refine ⟨?_,?_,?_,?_,TelemetrySection.telemetryConfig_mirrors⟩
  · intro h
    have hl : logLevel.Met c := validate_eq_ok_iff.mp h logLevel
    refine ⟨hl,⟨_,rfl⟩,?_,starts_iff_not_clashes hl⟩
    intro installed note
    have hm : t.metrics.validate = .ok () := rfl
    rw [startMetrics_of_valid hm]
    split <;> simp
  · intro h installed level
    have he : (t.logging.withLevel level).enabled = false := h
    exact startLogging_of_disabled he installed
  · intro reason h
    obtain ⟨he,note,hc,rfl⟩ := refused_of_levelReason h
    have hs (installed : Bool) : startLogging installed t.logging = .plain (.error (.loggingInit note)) :=
      startLogging_of_refused he (level_telemetryConfig ▸ hc) installed
    refine ⟨note,by rw [level_telemetryConfig],hs,?_⟩
    intro installed
    exact answer_startTelemetry_of_refused (congrArg Traced.answer (hs installed.logging))
  · intro h
    rw [← logLevel_met_iff_starts, validate_eq_ok_iff]
    constructor
    · intro hr
      exact hr logLevel
    · intro hl r
      by_cases hr : r = logLevel
      · exact hr ▸ hl
      · exact h r hr

/-- The same level is refused if there is to be a log and passed over if there is none. -/
theorem validate_foretells_start_unknown_level :
    let c (enabled : Bool) : Config :=
      ⟨.default, .default, ⟨"gatehouse", ⟨enabled, "gatehouse=loud", .pretty⟩, ⟨true⟩⟩⟩
    (c true).validate = .error (.invalidValue logLevel.field (levelReason "gatehouse=loud"
        (.loggingInit ("Invalid log level: " ++ FilterError.level.message)))) ∧
      (∃ note, (startTelemetry ⟨false, true⟩ (c true).telemetry.telemetryConfig).answer =
        .error (.loggingInit note)) ∧
      (c false).validate = .ok () ∧
      (∃ started, (startTelemetry ⟨true, false⟩ (c false).telemetry.telemetryConfig).answer =
        .ok started) ∧
      ∀ started, (startTelemetry ⟨false, true⟩ (c false).telemetry.telemetryConfig).answer ≠
        .ok started := by
  intro c
  have ht : (c true).validate = .error (.invalidValue logLevel.field (levelReason "gatehouse=loud"
      (.loggingInit ("Invalid log level: " ++ FilterError.level.message)))) := by decide +kernel
  have hf : (c false).validate = .ok () := by decide +kernel
  obtain ⟨note,-,-,hn⟩ := (validate_foretells_start (c true)).2.2.1 _ ht
  have hs := ((validate_foretells_start (c false)).1 hf).2.2.2
  have h1 := hn ⟨false, true⟩
  have h2 := hs ⟨true, false⟩
  have h3 := hs ⟨false, true⟩
  refine ⟨ht,⟨note,h1⟩,hf,?_,?_⟩
  · apply h2.mpr
    rintro (⟨h,-⟩ | ⟨-,h⟩)
    · cases h
    · cases h
  · intro started h
    exact h3.mp ⟨started,h⟩ (Or.inr ⟨rfl,rfl⟩)

end Config

end Turnstile
