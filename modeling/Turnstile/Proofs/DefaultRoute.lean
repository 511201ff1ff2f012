import Turnstile.Proofs.LoginRun
import Turnstile.Proofs.Prerequisites

/-! Where the default route of a service shows. It is the answer to attempts that every gate lets pass, and
nothing else in a run depends on it. A pipeline with a gate that lets no attempt pass never needs one. -/
namespace Turnstile

namespace Outcome
variable {decision : Decision} {route : Route}

lemma ofDecision_eq_of_ne_proceed (h : decision ≠ .proceed) (a b : Route) :
    ofDecision a decision = ofDecision b decision := by
  cases decision with
  | proceed => exact absurd rfl h
  | reject reason => rfl
  | terminate target => rfl

lemma ofDecision_eq_denied_iff {reason : Reason} :
    ofDecision route decision = .denied reason ↔ decision = .reject reason := by
  cases decision <;> simp [ofDecision]

lemma ofDecision_eq_granted_iff (h : decision ≠ .proceed) {target : Route} :
    ofDecision route decision = .granted target ↔ decision = .terminate target := by
  cases decision with
  | proceed => exact absurd rfl h
  | reject reason => simp [ofDecision]
  | terminate other => simp [ofDecision]

end Outcome

/-- It lets no attempt pass. -/
def Gate.Final (gate : Gate) : Prop := ∀ attempt, ¬ gate.Passes attempt

lemma Gate.final_roleRoute (router : Router) : (roleRoute router).Final := by
  intro attempt hp
  cases (answer_check_roleRoute attempt router).symm.trans hp

/-- The first gate that does not let the attempt pass decides so. -/
def Pipeline.StopsWith (p : Pipeline) (attempt : Attempt) (decision : Decision) : Prop :=
  ∃ before gate after, p.gates = before ++ gate :: after ∧
    (∀ earlier ∈ before, earlier.Passes attempt) ∧ (gate.check attempt).answer = .ok decision

/-- The spans around an evaluation are for its log only. -/
lemma Pipeline.answer_evaluate_congr (p : Pipeline) (around others : List Log.Span)
    {attempt : Attempt} :
    (p.evaluate around attempt).answer = (p.evaluate others attempt).answer := by
  cases Course.of attempt p.gates with
  | passed all => rw [p.evaluate_of_passes around all, p.evaluate_of_passes others all]
  | decided before gate after decision split earlier answer final =>
    have hg := Gate.not_passes_of_decision answer final
    rw [p.evaluate_of_stop around split earlier hg, p.evaluate_of_stop others split earlier hg]
  | failed before gate after failure split earlier answer =>
    have hg := Gate.not_passes_of_failure answer
    rw [p.evaluate_of_stop around split earlier hg, p.evaluate_of_stop others split earlier hg]

namespace Service
variable {s : Service} {attempt : Attempt} {took : Duration}

lemma answer_login_of_stopsWith {decision : Decision} (h : s.pipeline.StopsWith attempt decision)
    (hd : decision ≠ .proceed) :
    (s.login took attempt).answer = .ok (.ofDecision s.defaultRoute decision) := by
  obtain ⟨before,gate,after,hs,hb,ha⟩ := h
  rw [login_of_decision hs hb ha hd]

lemma answer_login_eq_error_iff {failure : Failure} :
    (s.login took attempt).answer = .error failure ↔
      (s.evaluation attempt).answer = .error failure := by
  rw [answer_login]
  cases (s.evaluation attempt).answer <;> simp [Except.map]

lemma answer_login_eq_denied_iff {reason : Reason} :
    (s.login took attempt).answer = .ok (.denied reason) ↔
      s.pipeline.StopsWith attempt (.reject reason) := by
  constructor
  · intro h
    cases Course.of attempt s.pipeline.gates with
    | passed all =>
      rw [login_of_passes all] at h
      cases h
    | decided before gate after decision split earlier answer final =>
      rw [login_of_decision split earlier answer final] at h
      have hd : decision = .reject reason :=
        Outcome.ofDecision_eq_denied_iff.mp (Except.ok.inj h)
      exact ⟨before,gate,after,split,earlier,hd ▸ answer⟩
    | failed before gate after failure split earlier answer =>
      rw [login_of_failure split earlier answer] at h
      cases h
  · intro h
    exact answer_login_of_stopsWith h (by simp)

lemma answer_login_eq_granted_iff {target : Route} :
    (s.login took attempt).answer = .ok (.granted target) ↔
      s.pipeline.StopsWith attempt (.terminate target) ∨
        (∀ gate ∈ s.pipeline.gates, gate.Passes attempt) ∧ target = s.defaultRoute := by
  constructor
  · intro h
    cases Course.of attempt s.pipeline.gates with
    | passed all =>
      rw [login_of_passes all] at h
      cases h
      exact Or.inr ⟨all,rfl⟩
    | decided before gate after decision split earlier answer final =>
      rw [login_of_decision split earlier answer final] at h
      have hd : decision = .terminate target :=
        (Outcome.ofDecision_eq_granted_iff final).mp (Except.ok.inj h)
      exact Or.inl ⟨before,gate,after,split,earlier,hd ▸ answer⟩
    | failed before gate after failure split earlier answer =>
      rw [login_of_failure split earlier answer] at h
      cases h
  · rintro (h | ⟨all,rfl⟩)
    · exact answer_login_of_stopsWith h (by simp)
    · rw [login_of_passes all]

/-- Services over one pipeline do the same about an attempt that some gate does not let pass. -/
lemma login_withDefaultRoute_of_not_passes
    (h : ∃ gate ∈ s.pipeline.gates, ¬ gate.Passes attempt) (a b : Route) :
    (s.withDefaultRoute a).login took attempt = (s.withDefaultRoute b).login took attempt := by
  cases Course.of attempt s.pipeline.gates with
  | passed all =>
    obtain ⟨gate,hg,hn⟩ := h
    exact absurd (all gate hg) hn
  | decided before gate after decision split earlier answer final =>
    have ho : Outcome.ofDecision (s.withDefaultRoute a).defaultRoute decision =
        .ofDecision (s.withDefaultRoute b).defaultRoute decision :=
      Outcome.ofDecision_eq_of_ne_proceed final a b
    have ha := login_of_decision (s := s.withDefaultRoute a) split earlier answer final took
    have hb := login_of_decision (s := s.withDefaultRoute b) split earlier answer final took
    rw [ha, hb, ho]
    rfl
  | failed before gate after failure split earlier answer =>
    have ha := login_of_failure (s := s.withDefaultRoute a) split earlier answer took
    have hb := login_of_failure (s := s.withDefaultRoute b) split earlier answer took
    rw [ha, hb]
    rfl

lemma login_withDefaultRoute_of_final (h : ∃ gate ∈ s.pipeline.gates, gate.Final) (a b : Route) :
    (s.withDefaultRoute a).login took attempt = (s.withDefaultRoute b).login took attempt := by
  obtain ⟨gate,hg,hf⟩ := h
  exact login_withDefaultRoute_of_not_passes ⟨gate,hg,hf attempt⟩ a b

lemma final_mem_standard (store : Store) (router : Router) :
    ∃ gate ∈ (standard store router).pipeline.gates, gate.Final := by
  refine ⟨.roleRoute router,?_,Gate.final_roleRoute router⟩
  rw [gates_standard]
  simp

lemma login_ofConfig_defaultRoute (label : Nat) (c : Config) (route : Route) :
    (ofConfig label { c with routing := { c.routing with defaultRoute := route } }).login took attempt =
      (ofConfig label c).login took attempt :=
  login_withDefaultRoute_of_final
    (final_mem_standard (c.credentials.store label) ⟨c.routing.privileged⟩) route
    c.routing.defaultRoute

/-- Services over one pipeline that differ in the default route. If every gate lets the attempt pass, each
of them grants its own; otherwise they do the same, up to the last line of the log. A login fails exactly as
its evaluation does, is denied with the reason of the gate that stops the evaluation, and is granted with
the route of that gate. So the default route cannot be observed if a gate of the pipeline lets no attempt
pass, as the gate that chooses routes does wherever it stands, and never in the canonical service, whatever
is configured. -/
theorem login_withDefaultRoute (s : Service) (took : Duration) :
    (∀ attempt,
      let run (route : Route) := (s.withDefaultRoute route).login took attempt
      let allPass := ∀ gate ∈ s.pipeline.gates, gate.Passes attempt
      (allPass → ∀ route, (run route).answer = .ok (.granted route)) ∧
      (¬ allPass → ∀ a b, run a = run b) ∧
      ∀ route,
        (∀ around failure, (run route).answer = .error failure ↔
          (s.pipeline.evaluate around attempt).answer = .error failure) ∧
        (∀ reason, (run route).answer = .ok (.denied reason) ↔
          s.pipeline.StopsWith attempt (.reject reason)) ∧
        ∀ target, (run route).answer = .ok (.granted target) ↔
          s.pipeline.StopsWith attempt (.terminate target) ∨ allPass ∧ target = route) ∧
    ((∃ gate ∈ s.pipeline.gates, gate.Final) → ∀ attempt a b,
      (s.withDefaultRoute a).login took attempt = (s.withDefaultRoute b).login took attempt) ∧
    (∀ router, (Gate.roleRoute router).Final) ∧
    (∀ store router attempt a b,
      ((standard store router).withDefaultRoute a).login took attempt =
        ((standard store router).withDefaultRoute b).login took attempt) ∧
    ∀ label (c : Config) route attempt,
      (ofConfig label { c with routing := { c.routing with defaultRoute := route } }).login took
          attempt = (ofConfig label c).login took attempt := by
  refine ⟨?_,?_,Gate.final_roleRoute,?_,?_⟩
  · intro attempt run allPass
    refine ⟨?_,?_,?_⟩
    · intro h route
      have hr : run route = _ := login_of_passes (s := s.withDefaultRoute route) h took
      rw [hr]
      rfl
    · intro h a b
      exact login_withDefaultRoute_of_not_passes (by simpa [allPass] using h) a b
    · intro route
      refine ⟨?_,fun _ => answer_login_eq_denied_iff,fun _ => answer_login_eq_granted_iff⟩
      intro around failure
      rw [s.pipeline.answer_evaluate_congr around [.login attempt.identity]]
      exact answer_login_eq_error_iff
  · intro h attempt a b
    exact login_withDefaultRoute_of_final h a b
  · intro store router attempt a b
    exact login_withDefaultRoute_of_final (final_mem_standard store router) a b
  · intro label c route attempt
    exact login_ofConfig_defaultRoute label c route

/-- A rule that passes everybody leaves the choice to the default route. With the gate that chooses routes
before it or after it the default is not seen any more, although the rule is the same. -/
theorem login_withDefaultRoute_behind_router :
    let lax : Gate := .ofRule "lax" [] false fun _ => .proceed
    let service (gates : List Gate) (route : Route) := (ofPipeline ⟨gates⟩).withDefaultRoute route
    let login (gates : List Gate) (route : Route) :=
      (service gates route).login ⟨0, 0⟩ ⟨"guest", ""⟩
    (login [lax, lax] .admin).answer = .ok (.granted .admin) ∧
      (login [lax, lax] .standard).answer = .ok (.granted .standard) ∧
      login [lax, .roleRoute .default, lax] .admin = login [lax, .roleRoute .default, lax] .standard ∧
      (login [lax, .roleRoute .default, lax] .admin).answer = .ok (.granted .standard) := by
  intro lax service login
  have hp : lax.Passes ⟨"guest", ""⟩ := rfl
  have hl : ∀ gate ∈ [lax, lax], gate.Passes ⟨"guest", ""⟩ := by simpa using hp
  have hg := ((login_withDefaultRoute (ofPipeline ⟨[lax, lax]⟩) ⟨0, 0⟩).1 ⟨"guest", ""⟩).1 hl
  have hf : ∃ gate ∈ [lax, .roleRoute .default, lax], gate.Final :=
    ⟨.roleRoute .default,by simp,Gate.final_roleRoute .default⟩
  have hr := (login_withDefaultRoute (ofPipeline ⟨[lax, .roleRoute .default, lax]⟩) ⟨0, 0⟩).2.1 hf
  exact ⟨hg .admin,hg .standard,hr ⟨"guest", ""⟩ .admin .standard,rfl⟩

end Service

end Turnstile
