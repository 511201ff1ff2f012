import Mathlib.Data.List.Forall2
import Turnstile.Proofs.ConfiguredLogin
import Turnstile.Proofs.LoginRun

/-! What a login shows of secrets. Two runs are compared by all that comes out of them: the answer, the
entries of the log with their fields and spans, and the measurements but for the time they took. Runs
that cannot be told apart stay so when more is done after each of them, so it is enough to compare the
gates. -/
namespace Turnstile

/-- The measurement as if it had taken no time. -/
def Measurement.timeless : Measurement → Measurement
  | .login outcome reason _ => .login outcome reason ⟨0, 0⟩
  | .gate name decision => .gate name decision

/-- What others see of an effect. Questions to a store and the time that a login takes are not for them. -/
def Effect.shown? : Effect → Option Effect
  | .log entry => some (.log entry)
  | .measure measurement => some (.measure measurement.timeless)
  | _ => none

namespace Trace

/-- What others see of a trace, in order. -/
def shown (trace : List Effect) : List Effect := trace.filterMap Effect.shown?

@[simp] lemma shown_append (before after : List Effect) :
    shown (before ++ after) = shown before ++ shown after :=
  List.filterMap_append

lemma entries_shown (trace : List Effect) : entries (shown trace) = entries trace := by
  rw [entries, shown, List.filterMap_filterMap]
  congr 1
  funext e
  cases e <;> rfl

lemma measurements_shown (trace : List Effect) :
    measurements (shown trace) = (measurements trace).map Measurement.timeless := by
  rw [measurements, shown, List.filterMap_filterMap, measurements, List.map_filterMap]
  congr 1
  funext e
  cases e <;> rfl

end Trace

/-- Two runs that cannot be told apart by what comes out of them. -/
structure Traced.Alike {α : Type} (run other : Traced α) : Prop where
  answer : run.answer = other.answer
  shown : Trace.shown run.trace = Trace.shown other.trace

namespace Traced.Alike
variable {α β : Type} {run other : Traced α}

lemma entries (h : run.Alike other) : Trace.entries run.trace = Trace.entries other.trace := by
  rw [← Trace.entries_shown, h.shown, Trace.entries_shown]

lemma measurements (h : run.Alike other) :
    (Trace.measurements run.trace).map Measurement.timeless =
      (Trace.measurements other.trace).map Measurement.timeless := by
  rw [← Trace.measurements_shown, h.shown, Trace.measurements_shown]

lemma preceded (h : run.Alike other) (effects : List Effect) :
    (run.preceded effects).Alike (other.preceded effects) where
  answer := h.answer
  shown := by simp [h.shown]

/-- Nothing that is done after each of them tells them apart, if it is alike for one answer. -/
lemma bind (h : run.Alike other) {next next' : α → Traced β} (hn : ∀ a, (next a).Alike (next' a)) :
    (run.bind next).Alike (other.bind next') where
  answer := by rw [answer_bind, answer_bind, h.answer, (hn _).answer]
  shown := by
    rw [trace_bind, trace_bind, Trace.shown_append, Trace.shown_append, h.shown, h.answer,
      (hn _).shown]

end Traced.Alike

variable {a b : Attempt}

/-- Two gates of one name of which neither shows which of two attempts it was asked about. -/
structure Gate.Alike (a b : Attempt) (gate other : Gate) : Prop where
  name : gate.name = other.name
  check : (gate.check a).Alike (other.check b)

namespace Pipeline
variable {spans around : List Log.Span}

/-- Asking gates that are alike in pairs, one after another, shows nothing either. -/
lemma runFrom_alike {gates others : List Gate} (h : List.Forall₂ (Gate.Alike a b) gates others)
    (n : Nat) : (runFrom spans a n gates).Alike (runFrom spans b n others) := by
  induction h generalizing n with
  | nil => exact ⟨rfl,rfl⟩
  | cons hg _ ih =>
    rw [runFrom, runFrom]
    apply hg.check.bind
    intro answer
    rw [hg.name]
    cases answer with
    | error failure => exact ⟨rfl,rfl⟩
    | ok decision =>
      by_cases hf : decision.isFinal
      · simp only [hf, if_true]
        exact ⟨rfl,rfl⟩
      · simp only [hf]
        exact (ih (n+1)).preceded _

lemma names_eq_of_alike {gates others : List Gate} (h : List.Forall₂ (Gate.Alike a b) gates others) :
    names ⟨gates⟩ = names ⟨others⟩ := by
  induction h with
  | nil => rfl
  | cons hg _ ih => exact congrArg₂ List.cons hg.name ih

/-- An evaluation has the identity in its spans. -/
lemma evaluate_alike (hi : a.identity = b.identity) {p q : Pipeline}
    (h : List.Forall₂ (Gate.Alike a b) p.gates q.gates) :
    (p.evaluate around a).Alike (q.evaluate around b) := by
  have hc : p.count = q.count := h.length_eq
  rw [evaluate, evaluate, hi, hc]
  exact runFrom_alike h 0

end Pipeline

namespace Service

lemma login_alike (hi : a.identity = b.identity) {s t : Service}
    (h : List.Forall₂ (Gate.Alike a b) s.pipeline.gates t.pipeline.gates)
    (hr : s.defaultRoute = t.defaultRoute) (took took' : Duration) :
    (s.login took a).Alike (t.login took' b) := by
  have hn : s.pipeline.names = t.pipeline.names := Pipeline.names_eq_of_alike h
  rw [login, login, hi, hn, hr]
  apply (Pipeline.evaluate_alike hi h).bind
  intro answer
  cases answer with
  | error failure => exact ⟨rfl,rfl⟩
  | ok e => exact ⟨rfl,by simp [effects, Trace.shown, List.filterMap_append, List.filterMap_map]; rfl⟩

/-- The answers of the gates are all that the answer of a login depends on. -/
lemma answer_login_congr {s : Service}
    (h : ∀ gate ∈ s.pipeline.gates, (gate.check a).answer = (gate.check b).answer)
    (took took' : Duration) : (s.login took a).answer = (s.login took' b).answer := by
  have hp : ∀ gate ∈ s.pipeline.gates, gate.Passes a → gate.Passes b := by
    intro gate hg hp
    exact (h gate hg).symm.trans hp
  cases Course.of a s.pipeline.gates with
  | passed all =>
    rw [login_of_passes all, login_of_passes fun gate hg => hp gate hg (all gate hg)]
  | decided before gate after decision split earlier answer final =>
    have hb : ∀ g ∈ before, g.Passes b := fun g hg => hp g (by simp [split, hg]) (earlier g hg)
    have ha : (gate.check b).answer = .ok decision := by rw [← h gate (by simp [split]), answer]
    rw [login_of_decision split earlier answer final, login_of_decision split hb ha final]
  | failed before gate after failure split earlier answer =>
    have hb : ∀ g ∈ before, g.Passes b := fun g hg => hp g (by simp [split, hg]) (earlier g hg)
    have ha : (gate.check b).answer = .error failure := by rw [← h gate (by simp [split]), answer]
    rw [login_of_failure split earlier answer, login_of_failure split hb ha]

end Service

namespace Gate
variable {store other : Store}

lemma shown_ask (store : Store) (query : Query) : Trace.shown (store.ask query).trace = [] := by
  simp [Trace.shown, Store.ask, Effect.shown?]

lemma userExists_alike
    (h : store.answer (.userExists a.identity) = other.answer (.userExists b.identity)) :
    Alike a b (userExists store) (userExists other) := by
  refine ⟨rfl,?_,?_⟩
  · rw [answer_check_userExists, answer_check_userExists, h]
  · rw [trace_check_userExists, trace_check_userExists, shown_ask, shown_ask]

lemma passwordMatch_alike
    (h : store.answer (.verifyPassword a.identity a.secret) =
      other.answer (.verifyPassword b.identity b.secret)) :
    Alike a b (passwordMatch store) (passwordMatch other) := by
  refine ⟨rfl,?_,?_⟩
  · rw [answer_check_passwordMatch, answer_check_passwordMatch, h]
  · rw [trace_check_passwordMatch, trace_check_passwordMatch, shown_ask, shown_ask]

lemma roleRoute_alike (hi : a.identity = b.identity) (router : Router) :
    Alike a b (roleRoute router) (roleRoute router) := by
  refine ⟨rfl,?_,rfl⟩
  rw [answer_check_roleRoute, answer_check_roleRoute, hi]

/-- The gate if it did nothing but answer. -/
def silent (gate : Gate) : Gate :=
  { gate with check := fun attempt => .plain (gate.check attempt).answer }

lemma silent_alike {gate : Gate} (h : (gate.check a).answer = (gate.check b).answer) :
    Alike a b gate.silent gate.silent :=
  ⟨rfl,h,rfl⟩

end Gate

/-- The service over the gates if these did nothing but answer: what is logged and measured then is what
the service and its pipeline log and measure themselves. -/
def Service.silent (s : Service) : Service := ⟨⟨s.pipeline.gates.map Gate.silent⟩, s.defaultRoute⟩

/-- Configurations that differ in nothing but the secrets of their identities. -/
structure Config.SameButSecrets (c d : Config) : Prop where
  identities : c.credentials.users.identities = d.credentials.users.identities
  routing : c.routing = d.routing
  telemetry : c.telemetry = d.telemetry

namespace Config.SameButSecrets
variable {c d : Config}

lemma contains_eq (h : c.SameButSecrets d) (identity : String) :
    c.credentials.users.contains identity = d.credentials.users.contains identity := by
  rw [Bool.eq_iff_iff, Users.contains_eq_true_iff, Users.contains_eq_true_iff, h.identities]

lemma inspect_eq (h : c.SameButSecrets d) : c.inspect = d.inspect := by
  rw [inspect, inspect, CredentialsSection.inspect, CredentialsSection.inspect, h.identities,
    h.routing, h.telemetry]

end Config.SameButSecrets

namespace Service

/-- The store tells the secrets of two configurations apart only by whether they match. -/
lemma login_ofConfig_alike {c d : Config} (h : c.SameButSecrets d) (hi : a.identity = b.identity)
    (hs : (a.identity, a.secret) ∈ c.credentials.users.entries ↔
      (b.identity, b.secret) ∈ d.credentials.users.entries) (label : Nat) (took took' : Duration) :
    ((ofConfig label c).login took a).Alike ((ofConfig label d).login took' b) := by
  have hu : Gate.Alike a b (.userExists (c.credentials.store label))
      (.userExists (d.credentials.store label)) := by
    apply Gate.userExists_alike
    simp [CredentialsSection.store_eq_inMemory, Store.inMemory, h.contains_eq, hi]
  have hm : Gate.Alike a b (.passwordMatch (c.credentials.store label))
      (.passwordMatch (d.credentials.store label)) := by
    apply Gate.passwordMatch_alike
    rw [← Users.secret?_eq_some_iff, ← Users.secret?_eq_some_iff] at hs
    simp only [CredentialsSection.store_eq_inMemory, Store.inMemory, Except.ok.injEq]
    rw [Bool.eq_iff_iff, beq_iff_eq, beq_iff_eq, hs]
  have hr : Gate.Alike a b (.roleRoute ⟨c.routing.privileged⟩) (.roleRoute ⟨d.routing.privileged⟩) := by
    rw [h.routing]
    exact Gate.roleRoute_alike hi _
  have hd : (ofConfig label c).defaultRoute = (ofConfig label d).defaultRoute :=
    congrArg RoutingSection.defaultRoute h.routing
  exact login_alike hi (.cons hu (.cons hm (.cons hr .nil))) hd took took'

/-- What comes out of a login under a configuration tells of secrets only whether the offered one matches:
the answer, the log and the measurements are the same for other secrets, offered or known, if both match or
both do not. (An identity that is not known has no secret, so there it makes no difference at all.) Nor do
diagnostics show secrets, those of a configuration or that of an attempt. For any other pipeline the
answers of the gates are all that counts for the outcome and for what is logged and measured about it;
gates that do more than answer must not show more either. -/
theorem login_shows_match_only (label : Nat) (took took' : Duration) :
    (∀ (c d : Config) (identity secret secret' : String), c.SameButSecrets d →
      ((identity, secret) ∈ c.credentials.users.entries ↔
        (identity, secret') ∈ d.credentials.users.entries) →
      let run := (ofConfig label c).login took ⟨identity, secret⟩
      let other := (ofConfig label d).login took' ⟨identity, secret'⟩
      run.answer = other.answer ∧
      Trace.entries run.trace = Trace.entries other.trace ∧
      (Trace.measurements run.trace).map Measurement.timeless =
        (Trace.measurements other.trace).map Measurement.timeless) ∧
    (∀ c d : Config, c.SameButSecrets d → c.inspect = d.inspect) ∧
    (∀ identity secret secret' : String,
      Attempt.inspect ⟨identity, secret⟩ = Attempt.inspect ⟨identity, secret'⟩) ∧
    ∀ (s : Service) (a b : Attempt), a.identity = b.identity →
      (∀ gate ∈ s.pipeline.gates, (gate.check a).answer = (gate.check b).answer) →
      (s.login took a).answer = (s.login took' b).answer ∧
      Trace.entries (s.silent.login took a).trace = Trace.entries (s.silent.login took' b).trace ∧
      (Trace.measurements (s.silent.login took a).trace).map Measurement.timeless =
        (Trace.measurements (s.silent.login took' b).trace).map Measurement.timeless ∧
      ((∀ gate ∈ s.pipeline.gates,
          Trace.shown (gate.check a).trace = Trace.shown (gate.check b).trace) →
        Trace.entries (s.login took a).trace = Trace.entries (s.login took' b).trace ∧
        (Trace.measurements (s.login took a).trace).map Measurement.timeless =
          (Trace.measurements (s.login took' b).trace).map Measurement.timeless) := by
  refine ⟨?_,?_,?_,?_⟩
  · intro c d identity secret secret' h hs run other
    have hi : Attempt.identity ⟨identity, secret⟩ = Attempt.identity ⟨identity, secret'⟩ := rfl
    have hl : run.Alike other := login_ofConfig_alike h hi hs label took took'
    exact ⟨hl.answer,hl.entries,hl.measurements⟩
  · intro c d h
    exact h.inspect_eq
  · intro identity secret secret'
    rfl
  · intro s a b hi ha
    have hq : List.Forall₂ (Gate.Alike a b) s.silent.pipeline.gates s.silent.pipeline.gates := by
      apply List.forall₂_same.mpr
      intro gate hg
      obtain ⟨gate,hm,rfl⟩ := List.mem_map.mp hg
      exact Gate.silent_alike (ha gate hm)
    have hs := login_alike hi hq rfl took took'
    refine ⟨answer_login_congr ha took took',hs.entries,hs.measurements,?_⟩
    intro hv
    have hg : List.Forall₂ (Gate.Alike a b) s.pipeline.gates s.pipeline.gates :=
      List.forall₂_same.mpr fun gate hg => ⟨rfl,ha gate hg,hv gate hg⟩
    have hl := login_alike hi hg rfl took took'
    exact ⟨hl.entries,hl.measurements⟩

/-- With another secret for the administrator that secret takes the place of the old one, and nothing
shows it, whether the login is granted or denied. A rule that only asks whether there is a secret treats
any two of them alike. -/
theorem login_shows_match_only_changed_secret :
    let c := Config.default
    let d : Config := { c with credentials := ⟨c.credentials.users.insert "admin" "hunter2"⟩ }
    let login (c : Config) (secret : String) := (ofConfig 0 c).login ⟨0, 0⟩ ⟨"admin", secret⟩
    let rule : Gate := .ofRule "some_secret" [] false fun attempt =>
      if attempt.secret = "" then .reject .badPassword else .proceed
    let open? (secret : String) := (ofPipeline ⟨[rule]⟩).login ⟨0, 0⟩ ⟨"admin", secret⟩
    c.SameButSecrets d ∧ c.inspect = d.inspect ∧
      (login c "admin").answer = (login d "hunter2").answer ∧
      Trace.entries (login c "hunter2").trace = Trace.entries (login d "").trace ∧
      Trace.entries (open? "a").trace = Trace.entries (open? "longer").trace := by
  intro c d login rule open?
  have hc : c.credentials.users.entries = [("admin", "admin"), ("user", "user")] := rfl
  have hd : d.credentials.users.entries = [("admin", "hunter2"), ("user", "user")] := rfl
  have hs : c.SameButSecrets d := ⟨rfl,rfl,rfl⟩
  obtain ⟨hl,hi,-,hg⟩ := login_shows_match_only 0 ⟨0, 0⟩ ⟨0, 0⟩
  have hm := hl c d "admin" "admin" "hunter2" hs (by simp [hc, hd])
  have hn := hl c d "admin" "hunter2" "" hs (by simp [hc, hd])
  have ha : ∀ gate ∈ [rule], (gate.check ⟨"admin", "a"⟩).answer =
      (gate.check ⟨"admin", "longer"⟩).answer := by
    intro gate h
    rw [List.mem_singleton.mp h]
    rfl
  have hr := hg (ofPipeline ⟨[rule]⟩) ⟨"admin", "a"⟩ ⟨"admin", "longer"⟩ rfl ha
  refine ⟨hs,hi c d hs,hm.1,hn.2.1,(hr.2.2.2 ?_).1⟩
  intro gate h
  rw [List.mem_singleton.mp h]
  rfl

end Service

end Turnstile
