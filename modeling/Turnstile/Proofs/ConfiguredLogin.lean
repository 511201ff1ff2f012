import Turnstile.Proofs.FirstStop
import Turnstile.Proofs.UserLookup
import Turnstile.Service

/-! What a login comes to, told from the configuration alone. The sections become a store and a router,
these become gates, the gates a pipeline, and its decision an outcome. -/
namespace Turnstile
namespace Service
variable {attempt : Attempt}

/-- A gate that stops the evaluation with a decision settles the login. -/
lemma answer_login_of_stop {s : Service} (before : List Gate) (gate : Gate) (after : List Gate)
    (hs : s.pipeline.gates = before ++ gate :: after) (hb : ∀ g ∈ before, g.Passes attempt)
    {decision : Decision} (ha : (gate.check attempt).answer = .ok decision)
    (hd : decision ≠ .proceed) (took : Duration) :
    (s.login took attempt).answer = .ok (.ofDecision s.defaultRoute decision) := by
  have hg : ¬ gate.Passes attempt := by
    intro hp
    exact hd (Except.ok.inj (ha.symm.trans hp))
  have he := s.pipeline.evaluate_of_stop [.login attempt.identity] hs hb hg
  simp [login, he, ha, Gate.settlement, Except.map]

section Canonical
variable (store : Store) (router : Router) (route : Route) (took : Duration)

lemma answer_login_of_unknown (hu : store.answer (.userExists attempt.identity) = .ok false) :
    (((standard store router).withDefaultRoute route).login took attempt).answer =
      .ok (.denied .unknownUser) := by
  have ha : ((Gate.userExists store).check attempt).answer = .ok (.reject .unknownUser) := by
    rw [Gate.answer_check_userExists, hu]
    rfl
  exact answer_login_of_stop [] (.userExists store) [.passwordMatch store, .roleRoute router] rfl
    (by simp) ha (by simp) took

lemma answer_login_of_mismatch (hu : store.answer (.userExists attempt.identity) = .ok true)
    (hm : store.answer (.verifyPassword attempt.identity attempt.secret) = .ok false) :
    (((standard store router).withDefaultRoute route).login took attempt).answer =
      .ok (.denied .badPassword) := by
  have hp : (Gate.userExists store).Passes attempt :=
    (Gate.passes_userExists_iff store attempt).mpr hu
  have ha : ((Gate.passwordMatch store).check attempt).answer = .ok (.reject .badPassword) := by
    rw [Gate.answer_check_passwordMatch, hm]
    rfl
  exact answer_login_of_stop [.userExists store] (.passwordMatch store) [.roleRoute router] rfl
    (by simpa using hp) ha (by simp) took

lemma answer_login_of_match (hu : store.answer (.userExists attempt.identity) = .ok true)
    (hm : store.answer (.verifyPassword attempt.identity attempt.secret) = .ok true) :
    (((standard store router).withDefaultRoute route).login took attempt).answer =
      .ok (.granted (router.routeFor attempt.identity)) := by
  have hp : (Gate.userExists store).Passes attempt :=
    (Gate.passes_userExists_iff store attempt).mpr hu
  have hq : (Gate.passwordMatch store).Passes attempt :=
    (Gate.passes_passwordMatch_iff store attempt).mpr hm
  exact answer_login_of_stop [.userExists store, .passwordMatch store] (.roleRoute router) [] rfl
    (by simpa using ⟨hp,hq⟩) (Gate.answer_check_roleRoute attempt router) (by simp) took

end Canonical

end Service

lemma CredentialsSection.store_eq_inMemory (s : CredentialsSection) (label : Nat) :
    s.store label = .inMemory label s.users := by
  rw [store, Users.ofList_entries]

namespace Config
variable (c : Config) (identity secret : String)

/-- What a login comes to under a configuration. -/
def verdict : Outcome :=
  match c.credentials.users.secret? identity with
  | none => .denied .unknownUser
  | some known =>
    if known = secret then .granted (if identity ∈ c.routing.privileged then .admin else .standard)
    else .denied .badPassword

lemma verdict_eq_unknownUser_iff :
    c.verdict identity secret = .denied .unknownUser ↔
      ∀ known, (identity, known) ∉ c.credentials.users.entries := by
  rw [← Users.secret?_eq_none_iff, verdict]
  cases c.credentials.users.secret? identity with
  | none => simp
  | some known => by_cases h : known = secret <;> simp [h]

lemma verdict_eq_badPassword_iff :
    c.verdict identity secret = .denied .badPassword ↔
      ∃ known, (identity, known) ∈ c.credentials.users.entries ∧ known ≠ secret := by
  simp only [← Users.secret?_eq_some_iff, verdict]
  cases c.credentials.users.secret? identity with
  | none => simp
  | some known => by_cases h : known = secret <;> simp [h]

lemma verdict_eq_granted_iff (route : Route) :
    c.verdict identity secret = .granted route ↔
      (identity, secret) ∈ c.credentials.users.entries ∧
        route = if identity ∈ c.routing.privileged then .admin else .standard := by
  rw [← Users.secret?_eq_some_iff, verdict]
  cases c.credentials.users.secret? identity with
  | none => simp
  | some known =>
    rcases eq_or_ne known secret with rfl | h
    · simp [eq_comm]
    · simp [h]

/-- Only the pair of the identity itself and its place among the privileged count. -/
lemma verdict_congr {c d : Config} {identity : String} (secret : String)
    (hu : ∀ known, (identity, known) ∈ c.credentials.users.entries ↔
      (identity, known) ∈ d.credentials.users.entries)
    (hp : identity ∈ c.routing.privileged ↔ identity ∈ d.routing.privileged) :
    c.verdict identity secret = d.verdict identity secret := by
  have hs : c.credentials.users.secret? identity = d.credentials.users.secret? identity := by
    apply Option.ext
    intro known
    rw [Users.secret?_eq_some_iff, Users.secret?_eq_some_iff, hu]
  simp only [verdict, hs, hp]

end Config

namespace Service

lemma answer_login_eq_verdict (label : Nat) (took : Duration) (c : Config)
    (identity secret : String) :
    ((ofConfig label c).login took ⟨identity, secret⟩).answer = .ok (c.verdict identity secret) := by
  rw [ofConfig, CredentialsSection.store_eq_inMemory, Config.verdict]
  cases hk : c.credentials.users.secret? identity with
  | none =>
    apply answer_login_of_unknown
    simp [Store.inMemory, Users.contains, hk]
  | some known =>
    have hu : (Store.inMemory label c.credentials.users).answer (.userExists identity) = .ok true := by
      simp [Store.inMemory, Users.contains, hk]
    by_cases h : known = secret
    · rw [answer_login_of_match _ _ _ _ hu]
      · simp [h, Router.routeFor, Router.isPrivileged]
      · simp [Store.inMemory, hk, h]
    · rw [answer_login_of_mismatch _ _ _ _ hu]
      · simp [h]
      · simp [Store.inMemory, hk, h]

/-- A configured service always comes to an outcome. The identity is unknown if no pair of the
credentials has it, the secret is wrong if the pair that has it differs, and else the privileged are led
to the administration and all others take the standard route. The pairs of other identities, the default
route and the privileges of others do not count. -/
theorem login_ofConfig (label : Nat) (took : Duration) (c : Config) (identity secret : String) :
    let answer (c : Config) := ((ofConfig label c).login took ⟨identity, secret⟩).answer
    (∃ outcome, answer c = .ok outcome) ∧
    (answer c = .ok (.denied .unknownUser) ↔
      ∀ known, (identity, known) ∉ c.credentials.users.entries) ∧
    (answer c = .ok (.denied .badPassword) ↔
      ∃ known, (identity, known) ∈ c.credentials.users.entries ∧ known ≠ secret) ∧
    (∀ route, answer c = .ok (.granted route) ↔
      (identity, secret) ∈ c.credentials.users.entries ∧
        route = if identity ∈ c.routing.privileged then .admin else .standard) ∧
    ∀ d : Config,
      (∀ known, (identity, known) ∈ c.credentials.users.entries ↔
        (identity, known) ∈ d.credentials.users.entries) →
      (identity ∈ c.routing.privileged ↔ identity ∈ d.routing.privileged) → answer c = answer d := by
  intro answer
  have hv (d : Config) : answer d = .ok (d.verdict identity secret) :=
    answer_login_eq_verdict label took d identity secret
  refine ⟨⟨_,hv c⟩,?_,?_,?_,?_⟩
  · rw [hv, Except.ok.injEq, Config.verdict_eq_unknownUser_iff]
  · rw [hv, Except.ok.injEq, Config.verdict_eq_badPassword_iff]
  · intro route
    rw [hv, Except.ok.injEq, Config.verdict_eq_granted_iff]
  · intro d hu hp
    rw [hv, hv, Config.verdict_congr secret hu hp]

/-- Another secret for another user, and another default route, make no difference to the privileged
user. -/
theorem login_ofConfig_other_secret :
    let c := Config.default
    let d : Config := ⟨⟨c.credentials.users.insert "user" "changed"⟩, ⟨["admin", "admin"], .admin⟩,
      c.telemetry⟩
    let attempt : Attempt := ⟨"admin", "admin"⟩
    ((ofConfig 0 d).login ⟨0, 0⟩ attempt).answer = .ok (.granted .admin) ∧
      ((ofConfig 0 c).login ⟨0, 0⟩ attempt).answer = ((ofConfig 0 d).login ⟨0, 0⟩ attempt).answer := by
  intro c d attempt
  have hc : c.credentials.users.entries = [("admin", "admin"), ("user", "user")] := rfl
  have hd : d.credentials.users.entries = [("admin", "admin"), ("user", "changed")] := rfl
  have hu (known : String) : ("admin", known) ∈ c.credentials.users.entries ↔
      ("admin", known) ∈ d.credentials.users.entries := by simp [hc, hd]
  constructor
  · exact ((login_ofConfig 0 ⟨0, 0⟩ d "admin" "admin").2.2.2.1 .admin).mpr ⟨by simp [hd],rfl⟩
  · exact (login_ofConfig 0 ⟨0, 0⟩ c "admin" "admin").2.2.2.2 d hu (by decide)

end Service

end Turnstile
