import Turnstile.Proofs.FirstStop
import Turnstile.Service

/-! A login as a whole. It takes one of three courses: no gate objects, a gate decides, or a gate fails.
On each of them the trace is the trail of the gates that were asked and after it what the service reports,
so all that is read off the trace falls into these two parts. -/
namespace Turnstile

namespace Trace
variable (before after : List Effect)

@[simp] lemma entries_append : entries (before ++ after) = entries before ++ entries after :=
  List.filterMap_append

@[simp] lemma events_append : events (before ++ after) = events before ++ events after := by
  simp [events]

@[simp] lemma measurements_append :
    measurements (before ++ after) = measurements before ++ measurements after :=
  List.filterMap_append

lemma measurements_map_measure (ms : List Measurement) : measurements (ms.map .measure) = ms := by
  rw [measurements, List.filterMap_map]
  exact List.filterMap_some

end Trace

namespace Gate
variable {gate : Gate} {attempt : Attempt}

lemma not_passes_of_decision {decision : Decision}
    (ha : (gate.check attempt).answer = .ok decision) (hd : decision ≠ .proceed) :
    ¬ gate.Passes attempt := by
  intro hp
  exact hd (Except.ok.inj (ha.symm.trans hp))

lemma not_passes_of_failure {failure : Failure}
    (ha : (gate.check attempt).answer = .error failure) : ¬ gate.Passes attempt := by
  intro hp
  cases ha.symm.trans hp

end Gate

/-- The courses that an attempt can take through gates. -/
inductive Course (attempt : Attempt) (gates : List Gate) : Prop
  /-- All of them let it pass. -/
  | passed (all : ∀ g ∈ gates, g.Passes attempt)
  /-- A gate settles the matter after all before it have let it pass. -/
  | decided (before : List Gate) (gate : Gate) (after : List Gate) (decision : Decision)
      (split : gates = before ++ gate :: after) (earlier : ∀ g ∈ before, g.Passes attempt)
      (answer : (gate.check attempt).answer = .ok decision) (final : decision ≠ .proceed)
  /-- A gate fails after all before it have let it pass. -/
  | failed (before : List Gate) (gate : Gate) (after : List Gate) (failure : Failure)
      (split : gates = before ++ gate :: after) (earlier : ∀ g ∈ before, g.Passes attempt)
      (answer : (gate.check attempt).answer = .error failure)

lemma Course.cons {attempt : Attempt} {gate : Gate} {gates : List Gate} (hp : gate.Passes attempt)
    (h : Course attempt gates) : Course attempt (gate :: gates) := by
  cases h with
  | passed all => exact .passed (List.forall_mem_cons.mpr ⟨hp,all⟩)
  | decided before g after decision split earlier answer final =>
    exact .decided (gate :: before) g after decision (by rw [split]; rfl)
      (List.forall_mem_cons.mpr ⟨hp,earlier⟩) answer final
  | failed before g after failure split earlier answer =>
    exact .failed (gate :: before) g after failure (by rw [split]; rfl)
      (List.forall_mem_cons.mpr ⟨hp,earlier⟩) answer

/-- There is no other course. -/
lemma Course.of (attempt : Attempt) (gates : List Gate) : Course attempt gates := by
  induction gates with
  | nil => exact .passed (by simp)
  | cons gate gates ih =>
    cases ha : (gate.check attempt).answer with
    | error failure => exact .failed [] gate gates failure rfl (by simp) ha
    | ok decision =>
      by_cases hd : decision = .proceed
      · exact ih.cons (ha.trans (by rw [hd]))
      · exact .decided [] gate gates decision rfl (by simp) ha hd

namespace Pipeline
variable {spans : List Log.Span} {attempt : Attempt} {gate : Gate}

lemma askedFrom_append_of_passes {before : List Gate} (h : ∀ g ∈ before, g.Passes attempt)
    (gates : List Gate) :
    askedFrom attempt (before ++ gates) = before ++ askedFrom attempt gates := by
  induction before with
  | nil => rfl
  | cons g before ih =>
    obtain ⟨hp,hb⟩ := List.forall_mem_cons.mp h
    rw [List.cons_append, askedFrom_cons_of_passes hp, ih hb, List.cons_append]

lemma askedFrom_of_passes {gates : List Gate} (h : ∀ g ∈ gates, g.Passes attempt) :
    askedFrom attempt gates = gates := by
  have ha := askedFrom_append_of_passes h []
  simpa [askedFrom] using ha

lemma askedFrom_of_stop {before : List Gate} (hb : ∀ g ∈ before, g.Passes attempt)
    (hg : ¬ gate.Passes attempt) (after : List Gate) :
    askedFrom attempt (before ++ gate :: after) = before ++ [gate] := by
  rw [askedFrom_append_of_passes hb, askedFrom_cons_of_not_passes hg]

lemma askedFrom_prefix (attempt : Attempt) (gates : List Gate) : askedFrom attempt gates <+: gates := by
  cases Course.of attempt gates with
  | passed all => simp [askedFrom_of_passes all]
  | decided before gate after decision split earlier answer final =>
    rw [split, askedFrom_of_stop earlier (Gate.not_passes_of_decision answer final)]
    exact ⟨after,by simp⟩
  | failed before gate after failure split earlier answer =>
    rw [split, askedFrom_of_stop earlier (Gate.not_passes_of_failure answer)]
    exact ⟨after,by simp⟩

/-- What these gates do themselves when they are asked. -/
def doings (attempt : Attempt) (gates : List Gate) : List Effect :=
  gates.flatMap fun gate => (gate.check attempt).trace

@[simp] lemma doings_cons (gates : List Gate) :
    doings attempt (gate :: gates) = (gate.check attempt).trace ++ doings attempt gates := by
  simp [doings]

/-- Beside the doings of the gates a trail holds only log entries, so a view that passes over these sees
nothing but the doings. -/
lemma filterMap_trail {β : Type} {view : Effect → Option β} (hv : ∀ entry, view (.log entry) = none)
    (n : Nat) (gates : List Gate) :
    (trail spans attempt n gates).filterMap view = (doings attempt gates).filterMap view := by
  induction gates generalizing n with
  | nil => rfl
  | cons gate gates ih =>
    have hr : (gate.footprint spans attempt n).filterMap view =
        (gate.check attempt).trace.filterMap view := by
      simp [Gate.footprint, hv]
    rw [trail_cons, doings_cons, List.filterMap_append, List.filterMap_append, hr, ih]

lemma measurements_trail (n : Nat) (gates : List Gate) :
    Trace.measurements (trail spans attempt n gates) =
      Trace.measurements (doings attempt gates) :=
  filterMap_trail (fun _ => rfl) n gates

end Pipeline

namespace Service
variable {s : Service} {attempt : Attempt} {before after : List Gate} {gate : Gate}

/-- The spans that a login asks the gates in. -/
def gateSpans (s : Service) (attempt : Attempt) : List Log.Span :=
  s.pipeline.gateSpans [.login attempt.identity] attempt

/-- The evaluation that a login makes. -/
def evaluation (s : Service) (attempt : Attempt) : Traced (Except Failure Evaluation) :=
  s.pipeline.evaluate [.login attempt.identity] attempt

lemma trace_evaluation :
    (s.evaluation attempt).trace =
      Pipeline.trail (s.gateSpans attempt) attempt 0 (s.pipeline.asked attempt) :=
  s.pipeline.trace_evaluate _

/-- What the service does when the evaluation is over: it only logs a failure, anything else it reports
as an outcome. -/
def closing (s : Service) (took : Duration) (attempt : Attempt) : List Effect :=
  match (s.evaluation attempt).answer with
  | .error failure => [.log ⟨[.login attempt.identity], .loginFailed failure⟩]
  | .ok e => effects [.login attempt.identity] s.pipeline.names e
      (.ofDecision s.defaultRoute e.decision) took

lemma trace_login (took : Duration) :
    (s.login took attempt).trace = (s.evaluation attempt).trace ++ s.closing took attempt := by
  rw [closing, evaluation, login, Traced.trace_bind]
  cases (s.pipeline.evaluate [.login attempt.identity] attempt).answer with
  | error failure => rfl
  | ok e => rfl

lemma answer_login (took : Duration) :
    (s.login took attempt).answer =
      (s.evaluation attempt).answer.map fun e => .ofDecision s.defaultRoute e.decision := by
  rw [evaluation, login, Traced.answer_bind]
  cases (s.pipeline.evaluate [.login attempt.identity] attempt).answer with
  | error failure => rfl
  | ok e => rfl

/-- When the evaluation is over, the service only measures and logs. -/
lemma filterMap_closing {β : Type} {view : Effect → Option β}
    (hl : ∀ entry, view (.log entry) = none) (hm : ∀ m, view (.measure m) = none)
    (took : Duration) : (s.closing took attempt).filterMap view = [] := by
  rw [closing]
  cases (s.evaluation attempt).answer with
  | error failure => simp [hl]
  | ok e => simp [effects, List.filterMap_map, hl, hm]

/-- A login to which no gate objects. -/
lemma login_of_passes (h : ∀ g ∈ s.pipeline.gates, g.Passes attempt) (took : Duration) :
    s.login took attempt =
      ⟨.ok (.granted s.defaultRoute),
        Pipeline.trail (s.gateSpans attempt) attempt 0 s.pipeline.gates ++
          effects [.login attempt.identity] s.pipeline.names ⟨.proceed, none, s.pipeline.count⟩
            (.granted s.defaultRoute) took⟩ := by
  rw [login, s.pipeline.evaluate_of_passes _ h]
  rfl

/-- A login that a gate decides. -/
lemma login_of_decision (hs : s.pipeline.gates = before ++ gate :: after)
    (hb : ∀ g ∈ before, g.Passes attempt) {decision : Decision}
    (ha : (gate.check attempt).answer = .ok decision) (hd : decision ≠ .proceed)
    (took : Duration) :
    s.login took attempt =
      ⟨.ok (.ofDecision s.defaultRoute decision),
        Pipeline.trail (s.gateSpans attempt) attempt 0 (before ++ [gate]) ++
          effects [.login attempt.identity] s.pipeline.names
            ⟨decision, some gate.name, before.length+1⟩ (.ofDecision s.defaultRoute decision)
            took⟩ := by
  rw [login, s.pipeline.evaluate_of_stop _ hs hb (Gate.not_passes_of_decision ha hd), ha]
  rfl

/-- A login in which a gate fails. -/
lemma login_of_failure (hs : s.pipeline.gates = before ++ gate :: after)
    (hb : ∀ g ∈ before, g.Passes attempt) {failure : Failure}
    (ha : (gate.check attempt).answer = .error failure) (took : Duration) :
    s.login took attempt =
      ⟨.error failure,
        Pipeline.trail (s.gateSpans attempt) attempt 0 (before ++ [gate]) ++
          [.log ⟨[.login attempt.identity], .loginFailed failure⟩]⟩ := by
  rw [login, s.pipeline.evaluate_of_stop _ hs hb (Gate.not_passes_of_failure ha), ha]
  rfl

end Service

end Turnstile
