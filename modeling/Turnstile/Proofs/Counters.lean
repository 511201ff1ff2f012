import Turnstile.Metrics
import Turnstile.Proofs.LoginRun

/-! What a recorder counts over a history of logins. The decisions of gates are not counted when they are
made: a service tells them afterwards from the evaluation and the names of its gates. The account is exact
for every login that comes to an outcome. A login that fails is not accounted for at all. -/
namespace Turnstile

namespace Service

/-- If no gate decided, all of them let the attempt pass. -/
lemma gateMeasurements_of_undecided (names : List String) :
    gateMeasurements names ⟨.proceed, none, names.length⟩ =
      names.map (.gate · Decision.proceed.label) := by
  simp [gateMeasurements]

/-- If one did, those before it let the attempt pass, and those after it were not run. -/
lemma gateMeasurements_of_decided (before : List String) (name : String) (after : List String)
    (decision : Decision) :
    gateMeasurements (before ++ name :: after) ⟨decision, some name, before.length+1⟩ =
      before.map (.gate · Decision.proceed.label) ++ [.gate name decision.label] := by
  have ht : (before ++ name :: after).take (before.length+1) = before ++ [name] := by
    rw [List.take_length_add_append]
    rfl
  simp [gateMeasurements, ht]

end Service

namespace Pipeline
variable {spans around : List Log.Span} {attempt : Attempt}

/-- The decisions that these gates return when they are asked, by their labels, each with the name of its
gate. A gate that fails returns none. -/
def returned (attempt : Attempt) (gates : List Gate) : List (String × String) :=
  gates.filterMap fun gate =>
    (gate.check attempt).answer.toOption.map fun decision => (gate.name, decision.label)

lemma returned_append (before after : List Gate) :
    returned attempt (before ++ after) = returned attempt before ++ returned attempt after :=
  List.filterMap_append

lemma returned_of_passes {gates : List Gate} (h : ∀ g ∈ gates, g.Passes attempt) :
    returned attempt gates = gates.map fun gate => (gate.name, Decision.proceed.label) := by
  induction gates with
  | nil => rfl
  | cons gate gates ih =>
    obtain ⟨hp,hg⟩ := List.forall_mem_cons.mp h
    have ha : (gate.check attempt).answer = .ok .proceed := hp
    rw [List.map_cons, ← ih hg]
    simp [returned, ha, Except.toOption]

lemma returned_of_decision {gate : Gate} {decision : Decision}
    (ha : (gate.check attempt).answer = .ok decision) :
    returned attempt [gate] = [(gate.name, decision.label)] := by
  simp [returned, ha, Except.toOption]

/-- An evaluation that ends without a failure says how many gates returned a decision, and which. -/
lemma gateMeasurements_of_evaluate (p : Pipeline) {e : Evaluation}
    (h : (p.evaluate around attempt).answer = .ok e) :
    e.gatesRun ≤ p.names.length ∧
      Service.gateMeasurements p.names e =
        (returned attempt (p.asked attempt)).map fun (gate, decision) => .gate gate decision := by
  cases Course.of attempt p.gates with
  | passed all =>
    rw [p.evaluate_of_passes around all] at h
    obtain rfl := Except.ok.inj h
    have hn : p.count = p.names.length := by simp [count, names]
    rw [asked, askedFrom_of_passes all, returned_of_passes all, hn,
      Service.gateMeasurements_of_undecided]
    simp [names, Function.comp_def]
  | decided before gate after decision split earlier answer final =>
    have hg : ¬ gate.Passes attempt := Gate.not_passes_of_decision answer final
    rw [p.evaluate_of_stop around split earlier hg, answer] at h
    obtain rfl := Except.ok.inj h
    have hn : p.names = before.map (·.name) ++ gate.name :: after.map (·.name) := by
      simp [names, split]
    have hm := Service.gateMeasurements_of_decided (before.map (·.name)) gate.name
      (after.map (·.name)) decision
    rw [List.length_map] at hm
    rw [asked, split, askedFrom_of_stop earlier hg, returned_append, returned_of_passes earlier,
      returned_of_decision answer, hn, hm]
    simp [Function.comp_def]
  | failed before gate after failure split earlier answer =>
    rw [p.evaluate_of_stop around split earlier (Gate.not_passes_of_failure answer), answer] at h
    cases h

end Pipeline

/-- A login: a service is asked about an attempt, and takes its time. -/
structure Login where
  service : Service
  attempt : Attempt
  took : Duration

namespace Login
variable (login : Login)

def run : Traced (Except Failure Outcome) := login.service.login login.took login.attempt

/-- What it comes to, unless it fails. -/
def outcome? : Option Outcome := login.run.answer.toOption

def evaluation : Traced (Except Failure Evaluation) := login.service.evaluation login.attempt

def asked : List Gate := login.service.pipeline.asked login.attempt

/-- The decisions that gates return in the login, with their names and labels. -/
def returned : List (String × String) := Pipeline.returned login.attempt login.asked

/-- All that the gates do themselves. -/
def doings : List Effect := Pipeline.doings login.attempt login.asked

/-- What the gates measure themselves, beside what the service measures. -/
def own : List Measurement := Trace.measurements login.doings

/-- What the service measures. -/
def reported : List Measurement :=
  match login.outcome? with
  | none => []
  | some outcome =>
    login.returned.map (fun (gate, decision) => .gate gate decision) ++
      [.login outcome.label (outcome.reason?.map Reason.code) login.took]

variable {login}

lemma measurements_closing :
    Trace.measurements (login.service.closing login.took login.attempt) = login.reported := by
  rw [reported, outcome?, run, Service.answer_login, Service.closing]
  cases he : (login.service.evaluation login.attempt).answer with
  | error failure => rfl
  | ok e =>
    have hm := (Pipeline.gateMeasurements_of_evaluate _ he).2
    simp only [Except.map, Except.toOption, Service.effects, hm]
    rw [Trace.measurements_append, Trace.measurements_map_measure]
    rfl

/-- The service measures nothing before the evaluation is over, and then what it tells from it. -/
lemma measurements_run : Trace.measurements login.run.trace = login.own ++ login.reported := by
  rw [run, Service.trace_login, Trace.measurements_append, measurements_closing,
    Service.trace_evaluation, Pipeline.measurements_trail]
  rfl

end Login

/-- Is it a login with these labels? -/
def Measurement.isLogin (outcome reason : String) : Measurement → Bool
  | .login o r _ => o = outcome ∧ r.getD noReason = reason
  | .gate _ _ => false

/-- Is it a decision with this label, of a gate with this name? -/
def Measurement.isDecision (gate decision : String) : Measurement → Bool
  | .login _ _ _ => false
  | .gate g d => g = gate ∧ d = decision

/-- The labels of the login counter for this outcome. -/
def Outcome.labels (outcome : Outcome) : String × String :=
  (outcome.label, (outcome.reason?.map Reason.code).getD noReason)

lemma Reason.code_injective : Function.Injective Reason.code := by
  intro a b h
  cases a <;> cases b <;> simp_all [code]

lemma Outcome.labels_eq_granted_iff (outcome : Outcome) :
    outcome.labels = ("granted", noReason) ↔ outcome.isGranted = true := by
  cases outcome <;> simp [labels, label, reason?, isGranted]

lemma Outcome.labels_eq_denied_iff (outcome : Outcome) (reason : Reason) :
    outcome.labels = ("denied", reason.code) ↔ outcome = .denied reason := by
  cases outcome with
  | granted route => simp [labels, label]
  | denied other => simp [labels, label, reason?, Reason.code_injective.eq_iff]

namespace Login

/-- A login is counted once if it comes to an outcome, and not at all if it fails. -/
lemma countP_isLogin_reported (login : Login) (outcome reason : String) :
    login.reported.countP (Measurement.isLogin outcome reason) =
      if login.outcome?.any (·.labels = (outcome, reason)) then 1 else 0 := by
  have hg : (login.returned.map fun (gate, decision) => Measurement.gate gate decision).countP
      (Measurement.isLogin outcome reason) = 0 := by
    simp [List.countP_map, List.countP_eq_zero, Measurement.isLogin]
  rw [reported]
  cases ho : login.outcome? with
  | none => rfl
  | some o =>
    simp only [List.countP_append, hg]
    simp [Measurement.isLogin, Outcome.labels]

/-- The decisions of its gates are counted as often as they were returned, on the same condition. -/
lemma countP_isDecision_reported (login : Login) (gate decision : String) :
    login.reported.countP (Measurement.isDecision gate decision) =
      if login.outcome?.isSome then login.returned.count (gate, decision) else 0 := by
  have hg : (login.returned.map fun (gate, decision) => Measurement.gate gate decision).countP
      (Measurement.isDecision gate decision) = login.returned.count (gate, decision) := by
    rw [List.countP_map, List.count]
    apply List.countP_congr
    intro pair _
    simp [Measurement.isDecision, Prod.ext_iff]
  rw [reported]
  cases ho : login.outcome? with
  | none => rfl
  | some o =>
    simp only [List.countP_append, hg]
    simp [Measurement.isDecision]

lemma countP_isLogin_flatMap_reported (history : List Login) (outcome reason : String) :
    (history.flatMap reported).countP (Measurement.isLogin outcome reason) =
      history.countP fun login => login.outcome?.any (·.labels = (outcome, reason)) := by
  induction history with
  | nil => rfl
  | cons login history ih =>
    rw [List.flatMap_cons, List.countP_append, ih, countP_isLogin_reported, List.countP_cons]
    omega

/-- The logins that came to an outcome. -/
def completed (history : List Login) : List Login := history.filter (·.outcome?.isSome)

/-- The logins that failed. -/
def failed (history : List Login) : List Login := history.filter (·.outcome?.isNone)

lemma countP_isDecision_flatMap_reported (history : List Login) (gate decision : String) :
    (history.flatMap reported).countP (Measurement.isDecision gate decision) =
      ((completed history).flatMap returned).count (gate, decision) := by
  induction history with
  | nil => rfl
  | cons login history ih =>
    rw [List.flatMap_cons, List.countP_append, ih, countP_isDecision_reported]
    cases ho : login.outcome?.isSome <;> simp [completed, ho]

end Login

namespace Recorder
variable (r : Recorder)

lemma logins_eq_countP (outcome reason : String) :
    r.logins outcome reason = r.measurements.countP (Measurement.isLogin outcome reason) := by
  apply List.countP_congr
  intro m _
  cases m <;> rfl

lemma gateDecisions_eq_countP (gate decision : String) :
    r.gateDecisions gate decision = r.measurements.countP (Measurement.isDecision gate decision) := by
  apply List.countP_congr
  intro m _
  cases m <;> rfl

lemma measurements_record (ms : List Measurement) :
    (r.record ms).measurements = r.measurements ++ ms := by
  rw [measurements, record, List.filterMap_append, List.filterMap_map]
  exact congrArg (r.measurements ++ ·) List.filterMap_some

/-- The recorder to which these logins were reported, one after another. -/
def after (r : Recorder) (history : List Login) : Recorder :=
  history.foldl (fun r login => r.record (Trace.measurements login.run.trace)) r

/-- Whatever is counted, the services add to what the gates measure themselves. -/
lemma countP_after (q : Measurement → Bool) (history : List Login) :
    (r.after history).measurements.countP q =
      (r.record (history.flatMap Login.own)).measurements.countP q +
        (history.flatMap Login.reported).countP q := by
  -- The gates and the service of one login take turns in the recorder, but the order does not matter for
  -- a count, so the induction is over all recorders to start from.
  induction history generalizing r with
  | nil => simp [after, measurements_record]
  | cons login history ih =>
    have hs : r.after (login :: history) =
        (r.record (Trace.measurements login.run.trace)).after history := rfl
    rw [hs, ih, Login.measurements_run]
    simp only [measurements_record, List.flatMap_cons, List.countP_append]
    omega

/-- The counter of decisions, over a history of logins. -/
lemma gateDecisions_after (history : List Login) (gate decision : String) :
    (r.after history).gateDecisions gate decision =
      (r.record (history.flatMap Login.own)).gateDecisions gate decision +
        ((Login.completed history).flatMap Login.returned).count (gate, decision) := by
  rw [gateDecisions_eq_countP, gateDecisions_eq_countP, countP_after,
    Login.countP_isDecision_flatMap_reported]

/-- The counter of logins. -/
lemma logins_after (history : List Login) (outcome reason : String) :
    (r.after history).logins outcome reason =
      (r.record (history.flatMap Login.own)).logins outcome reason +
        history.countP fun login => login.outcome?.any (·.labels = (outcome, reason)) := by
  rw [logins_eq_countP, logins_eq_countP, countP_after, Login.countP_isLogin_flatMap_reported]

/-- The counters of a recorder. When a login comes to an outcome, the names that the service takes for its
account are there, and the decisions counted are those that its gates returned, each as often as it was.
A login that fails is in no counter of logins. So over a history of logins the counters hold the decisions
returned in the logins that came to an outcome, how many logins were granted, and how many were denied for
each reason, all on top of what the gates measure themselves. -/
theorem counters_after (r : Recorder) :
    (∀ (login : Login) (outcome : Outcome), login.run.answer = .ok outcome →
      (∃ e, login.evaluation.answer = .ok e ∧
        e.gatesRun ≤ login.service.pipeline.names.length) ∧
      ∀ gate decision,
        (r.after [login]).gateDecisions gate decision =
          (r.record login.own).gateDecisions gate decision +
            login.returned.count (gate, decision)) ∧
    (∀ (login : Login) (failure : Failure), login.run.answer = .error failure →
      ∀ outcome reason,
        (r.after [login]).logins outcome reason = (r.record login.own).logins outcome reason) ∧
    ∀ history : List Login,
      let start := r.record (history.flatMap Login.own)
      (∀ gate decision, (r.after history).gateDecisions gate decision =
        start.gateDecisions gate decision +
          ((Login.completed history).flatMap Login.returned).count (gate, decision)) ∧
      (r.after history).logins "granted" noReason =
        start.logins "granted" noReason +
          history.countP (fun login => login.outcome?.any Outcome.isGranted) ∧
      ∀ reason : Reason,
        (r.after history).logins "denied" reason.code =
          start.logins "denied" reason.code +
            history.countP (fun login => login.outcome? = some (.denied reason)) := by
  refine ⟨?_,?_,?_⟩
  · intro login outcome h
    have ho : login.outcome? = some outcome := by
      rw [Login.outcome?, h]
      rfl
    constructor
    · rw [Login.run, Service.answer_login] at h
      cases he : login.evaluation.answer with
      | error failure =>
        rw [← Login.evaluation, he] at h
        cases h
      | ok e => exact ⟨e,rfl,(Pipeline.gateMeasurements_of_evaluate _ he).1⟩
    · intro gate decision
      rw [gateDecisions_after]
      simp [Login.completed, ho]
  · intro login failure h outcome reason
    have ho : login.outcome? = none := by
      rw [Login.outcome?, h]
      rfl
    rw [logins_after]
    simp [ho]
  · intro history start
    refine ⟨r.gateDecisions_after history,?_,?_⟩
    · rw [logins_after]
      congr 1
      apply List.countP_congr
      intro login _
      cases login.outcome? <;> simp [Outcome.labels_eq_granted_iff]
    · intro reason
      rw [logins_after]
      congr 1
      apply List.countP_congr
      intro login _
      cases login.outcome? <;> simp [Outcome.labels_eq_denied_iff]

/-- Two gates of one name are counted under it with what each of them returned, and a login that failed
is not counted among the denied. -/
theorem counters_after_same_name :
    let audit : Gate := .bare "audit" (.ok .proceed)
    let veto : Gate := .bare "audit" (.ok (.reject .badPassword))
    let broken : Gate := .bare "late" (.error (.store (.unavailable Store.offlineNote)))
    let login (gates : List Gate) : Login := ⟨⟨⟨gates⟩, .standard⟩, ⟨"admin", ""⟩, ⟨0, 0⟩⟩
    let r : Recorder := ⟨"turnstile", [], []⟩
    (r.after [login [audit, veto]]).gateDecisions "audit" "continue" = 1 ∧
      (r.after [login [audit, veto]]).gateDecisions "audit" "reject" = 1 ∧
      (r.after [login [audit, broken]]).logins "denied" "bad_password" = 0 ∧
      (r.after [login [audit, veto], login [audit, broken], login []]).logins "denied"
        "bad_password" = 1 := by
  intro audit veto broken login r
  obtain ⟨hd,hf,hl⟩ := counters_after r
  have hv := (hd (login [audit, veto]) (.denied .badPassword) rfl).2
  have hb := hf (login [audit, broken]) (.store (.unavailable Store.offlineNote)) rfl
  exact ⟨hv "audit" "continue",hv "audit" "reject",hb "denied" "bad_password",
    (hl [login [audit, veto], login [audit, broken], login []]).2.2 .badPassword⟩

end Recorder

end Turnstile
