import Turnstile.Proofs.Counters

/-! The decisions of gates that the log tells of, beside those that a recorder counts. The log has a
decision as soon as a gate returns it, the counter only when the login has come to an outcome. What the
counter lacks are the decisions returned in logins that a later gate failed. -/
namespace Turnstile

/-- Does it tell of a decision with this label, of a gate with this name? -/
def Log.Event.isDecision (gate decision : String) : Log.Event → Bool
  | .gateDecided g _ d => g = gate ∧ d.label = decision
  | _ => false

namespace Trace

/-- How often the log tells of such a decision. -/
def logged (gate decision : String) (trace : List Effect) : Nat :=
  (events trace).countP (Log.Event.isDecision gate decision)

variable (gate decision : String)

@[simp] lemma logged_append (before after : List Effect) :
    logged gate decision (before ++ after) =
      logged gate decision before + logged gate decision after := by
  simp [logged]

lemma logged_measure (ms : List Measurement) : logged gate decision (ms.map .measure) = 0 := by
  simp [logged, events, entries, List.filterMap_map]

end Trace

namespace Pipeline
variable {spans : List Log.Span} {attempt : Attempt}

/-- A gate that is asked has its decision logged, if it returns one. -/
lemma logged_footprint (gate : Gate) (n : Nat) (name decision : String) :
    Trace.logged name decision (gate.footprint spans attempt n) =
      Trace.logged name decision (gate.check attempt).trace +
        (returned attempt [gate]).count (name, decision) := by
  rw [Gate.footprint, Trace.logged_append]
  congr 1
  cases ha : (gate.check attempt).answer with
  | error failure =>
    have hn : returned attempt [gate] = [] := by simp [returned, ha, Except.toOption]
    rw [hn]
    rfl
  | ok d =>
    rw [returned_of_decision ha]
    simp [Gate.report, Trace.logged, Trace.events, Trace.entries, Log.Event.isDecision,
      List.count_singleton, Prod.ext_iff]

lemma logged_trail (n : Nat) (gates : List Gate) (name decision : String) :
    Trace.logged name decision (trail spans attempt n gates) =
      Trace.logged name decision (doings attempt gates) +
        (returned attempt gates).count (name, decision) := by
  induction gates generalizing n with
  | nil => rfl
  | cons gate gates ih =>
    have hr : returned attempt (gate :: gates) =
        returned attempt [gate] ++ returned attempt gates := returned_append [gate] gates
    rw [trail_cons, Trace.logged_append, logged_footprint, ih, doings_cons, Trace.logged_append, hr,
      List.count_append]
    omega

end Pipeline

/-- What the service logs is about the login, not about a gate. -/
lemma Service.logged_closing (s : Service) (took : Duration) (attempt : Attempt)
    (gate decision : String) : Trace.logged gate decision (s.closing took attempt) = 0 := by
  rw [closing]
  cases (s.evaluation attempt).answer with
  | error failure => rfl
  | ok e =>
    simp only [effects, Trace.logged_append, Trace.logged_measure]
    rfl

namespace Login

/-- Every decision returned in a login is logged, whatever the login comes to. -/
lemma logged_run (login : Login) (gate decision : String) :
    Trace.logged gate decision login.run.trace =
      Trace.logged gate decision login.doings + login.returned.count (gate, decision) := by
  rw [run, Service.trace_login, Trace.logged_append, Service.logged_closing,
    Service.trace_evaluation, Pipeline.logged_trail]
  rfl

lemma logged_flatMap_run (history : List Login) (gate decision : String) :
    Trace.logged gate decision (history.flatMap fun login => login.run.trace) =
      Trace.logged gate decision (history.flatMap doings) +
        (history.flatMap returned).count (gate, decision) := by
  induction history with
  | nil => rfl
  | cons login history ih =>
    simp only [List.flatMap_cons, Trace.logged_append, List.count_append, logged_run, ih]
    omega

lemma count_completed_add_count_failed (history : List Login) (pair : String × String) :
    ((completed history).flatMap returned).count pair +
        ((failed history).flatMap returned).count pair =
      (history.flatMap returned).count pair := by
  induction history with
  | nil => rfl
  | cons login history ih =>
    rw [List.flatMap_cons, List.count_append, ← ih]
    cases ho : login.outcome? with
    | none =>
      simp [completed, failed, ho]
      omega
    | some outcome =>
      simp [completed, failed, ho]
      omega

end Login

namespace Recorder

/-- Over a history of logins the log has all decisions that gates returned. The counter lacks those that
were returned in logins that failed, and no others: it holds all of them if and only if no decision with
its labels was returned in a failed login. -/
theorem gateDecisions_after_add_failed (r : Recorder) (history : List Login)
    (gate decision : String) :
    let counted := (r.after history).gateDecisions gate decision
    let start := (r.record (history.flatMap Login.own)).gateDecisions gate decision
    let all := (history.flatMap Login.returned).count (gate, decision)
    let lost := (Login.failed history).flatMap Login.returned
    Trace.logged gate decision (history.flatMap fun login => login.run.trace) =
      Trace.logged gate decision (history.flatMap Login.doings) + all ∧
    counted + lost.count (gate, decision) = start + all ∧
    (counted = start + all ↔ (gate, decision) ∉ lost) := by
  intro counted start all lost
  have hc : counted = start + _ := r.gateDecisions_after history gate decision
  have ha : _ + lost.count (gate, decision) = all :=
    Login.count_completed_add_count_failed history (gate, decision)
  refine ⟨Login.logged_flatMap_run history gate decision,?_,?_⟩
  · omega
  · rw [← List.count_eq_zero]
    omega

/-- A store confirms an identity and fails on its secret: the log has the decision that the identity is
known, the counter has not. -/
theorem gateDecisions_after_lost_secret :
    let store := Store.scripted 0 (.ok true) (.error (.unavailable Store.offlineNote))
    let login : Login := ⟨.standard store .default, ⟨"admin", "admin"⟩, ⟨0, 0⟩⟩
    let r : Recorder := ⟨"turnstile", [], []⟩
    login.returned = [("user_exists", "continue")] ∧
      Trace.logged "user_exists" "continue" login.run.trace = 1 ∧
      (r.after [login]).gateDecisions "user_exists" "continue" = 0 :=
  ⟨rfl,rfl,rfl⟩

end Recorder

end Turnstile
