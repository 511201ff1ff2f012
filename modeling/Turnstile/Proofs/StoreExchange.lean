import Turnstile.Proofs.ConfiguredLogin
import Turnstile.Proofs.LoginRun
import Turnstile.Proofs.Prerequisites

/-! What a canonical login asks of its store, and what becomes of the answers. The store may answer each
question as it likes, or fail on either. -/
namespace Turnstile

/-- A question on record at the store with this label, and the answer to it. -/
structure Inquiry where
  store : Nat
  query : Query
  answer : Except StoreError Bool

namespace Trace

/-- All questions in a trace, whatever store they went to. -/
def inquiries (trace : List Effect) : List Inquiry :=
  trace.filterMap fun
    | .query store query answer => some ⟨store, query, answer⟩
    | _ => none

@[simp] lemma inquiries_append (before after : List Effect) :
    inquiries (before ++ after) = inquiries before ++ inquiries after :=
  List.filterMap_append

end Trace

namespace Store
variable (store : Store)

/-- The record of asking the store these questions in this order, each once, and no other store any. -/
def exchange (questions : List Query) : List Inquiry :=
  questions.flatMap fun query =>
    store.reached.map fun label => ⟨label, query, store.answer query⟩

lemma inquiries_ask (query : Query) :
    Trace.inquiries (store.ask query).trace = store.exchange [query] := by
  simp [Trace.inquiries, exchange, ask, List.filterMap_map]

end Store

lemma StoreError.isRetryable_eq_true_iff (e : StoreError) :
    e.isRetryable = true ↔ (∃ note, e = .unavailable note) ∨ ∃ error, e = .system error := by
  cases e <;> simp [isRetryable]

namespace Service

/-- The service asks no questions itself. -/
lemma inquiries_closing (s : Service) (took : Duration) (attempt : Attempt) :
    Trace.inquiries (s.closing took attempt) = [] :=
  filterMap_closing (fun _ => rfl) (fun _ => rfl) took

/-- All questions of a login are asked by its gates. -/
lemma inquiries_login (s : Service) (took : Duration) (attempt : Attempt) :
    Trace.inquiries (s.login took attempt).trace =
      Trace.inquiries (Pipeline.doings attempt (s.pipeline.asked attempt)) := by
  rw [trace_login, Trace.inquiries_append, inquiries_closing, List.append_nil, trace_evaluation]
  exact Pipeline.filterMap_trail (fun _ => rfl) 0 _

section Canonical
variable {store : Store} {router : Router} {attempt : Attempt} (took : Duration)

/-- Unless the store confirms the identity it is not asked anything else. -/
lemma inquiries_login_of_unconfirmed
    (hu : store.answer (.userExists attempt.identity) ≠ .ok true) :
    Trace.inquiries ((standard store router).login took attempt).trace =
      store.exchange [.userExists attempt.identity] := by
  have hp : ¬ (Gate.userExists store).Passes attempt := by
    rwa [Gate.passes_userExists_iff]
  rw [inquiries_login, Pipeline.asked, gates_standard, Pipeline.askedFrom_cons_of_not_passes hp,
    ← store.inquiries_ask]
  simp [Pipeline.doings]

/-- Once it has, the secret is the second and last question. -/
lemma inquiries_login_of_confirmed
    (hu : store.answer (.userExists attempt.identity) = .ok true) :
    Trace.inquiries ((standard store router).login took attempt).trace =
      store.exchange
        [.userExists attempt.identity, .verifyPassword attempt.identity attempt.secret] := by
  have hp : (Gate.userExists store).Passes attempt :=
    (Gate.passes_userExists_iff store attempt).mpr hu
  -- Whether the gate that chooses the route is asked too makes no difference: it asks nothing.
  have hm : Trace.inquiries (Pipeline.doings attempt (Pipeline.askedFrom attempt
      [.passwordMatch store, .roleRoute router])) =
        store.exchange [.verifyPassword attempt.identity attempt.secret] := by
    rw [← store.inquiries_ask]
    by_cases hq : (Gate.passwordMatch store).Passes attempt
    · rw [Pipeline.askedFrom_cons_of_passes hq, Pipeline.askedFrom_cons_of_not_passes]
      · simp [Pipeline.doings]
      · simp [Gate.Passes]
    · rw [Pipeline.askedFrom_cons_of_not_passes hq]
      simp [Pipeline.doings]
  rw [inquiries_login, Pipeline.asked, gates_standard, Pipeline.askedFrom_cons_of_passes hp,
    Pipeline.doings_cons, Trace.inquiries_append, hm, Gate.trace_check_userExists,
    store.inquiries_ask]
  simp [Store.exchange]

lemma answer_login_of_unreachable {e : StoreError}
    (hu : store.answer (.userExists attempt.identity) = .error e) :
    ((standard store router).login took attempt).answer = .error (.store e) := by
  have hs : (standard store router).pipeline.gates =
      [] ++ .userExists store :: [.passwordMatch store, .roleRoute router] := rfl
  have ha : ((Gate.userExists store).check attempt).answer = .error (.store e) := by
    rw [Gate.answer_check_userExists, hu]
    rfl
  rw [login_of_failure hs (by simp) ha]

lemma answer_login_of_unverifiable {e : StoreError}
    (hu : store.answer (.userExists attempt.identity) = .ok true)
    (hv : store.answer (.verifyPassword attempt.identity attempt.secret) = .error e) :
    ((standard store router).login took attempt).answer = .error (.store e) := by
  have hs : (standard store router).pipeline.gates =
      [.userExists store] ++ .passwordMatch store :: [.roleRoute router] := rfl
  have hp : (Gate.userExists store).Passes attempt :=
    (Gate.passes_userExists_iff store attempt).mpr hu
  have ha : ((Gate.passwordMatch store).check attempt).answer = .error (.store e) := by
    rw [Gate.answer_check_passwordMatch, hv]
    rfl
  rw [login_of_failure hs (by simpa using hp) ha]

/-- A canonical login fails only through a failure of its store on a question that it was asked. -/
lemma answer_login_eq_error {failure : Failure}
    (h : ((standard store router).login took attempt).answer = .error failure) :
    ∃ e, failure = .store e ∧
      (store.answer (.userExists attempt.identity) = .error e ∨
        store.answer (.userExists attempt.identity) = .ok true ∧
          store.answer (.verifyPassword attempt.identity attempt.secret) = .error e) := by
  cases hu : store.answer (.userExists attempt.identity) with
  | error e =>
    rw [answer_login_of_unreachable took hu] at h
    cases h
    exact ⟨e,rfl,Or.inl rfl⟩
  | ok known =>
    cases known with
    | false =>
      cases (answer_login_of_unknown store router .standard took hu).symm.trans h
    | true =>
      cases hv : store.answer (.verifyPassword attempt.identity attempt.secret) with
      | error e =>
        rw [answer_login_of_unverifiable took hu hv] at h
        cases h
        exact ⟨e,rfl,Or.inr ⟨rfl,rfl⟩⟩
      | ok verified =>
        cases verified with
        | false => cases (answer_login_of_mismatch store router .standard took hu hv).symm.trans h
        | true => cases (answer_login_of_match store router .standard took hu hv).symm.trans h

end Canonical

/-- The canonical service asks its store about the identity first, and about the secret after it if and
only if the store has confirmed the identity. A failure of the store on either question is the answer,
unchanged, and all other answers of the store lead to an outcome. So a failed login is never a misuse, and
is worth another try exactly if the store was not reached. -/
theorem login_standard_exchange (store : Store) (router : Router) (took : Duration)
    (attempt : Attempt) :
    let run := (standard store router).login took attempt
    let known := Query.userExists attempt.identity
    let verified := Query.verifyPassword attempt.identity attempt.secret
    (∀ e, store.answer known = .error e →
      Trace.inquiries run.trace = store.exchange [known] ∧ run.answer = .error (.store e)) ∧
    (store.answer known = .ok false →
      Trace.inquiries run.trace = store.exchange [known] ∧
        run.answer = .ok (.denied .unknownUser)) ∧
    (store.answer known = .ok true →
      Trace.inquiries run.trace = store.exchange [known, verified] ∧
      (∀ e, store.answer verified = .error e → run.answer = .error (.store e)) ∧
      (store.answer verified = .ok false → run.answer = .ok (.denied .badPassword)) ∧
      (store.answer verified = .ok true →
        run.answer = .ok (.granted (router.routeFor attempt.identity)))) ∧
    ∀ failure, run.answer = .error failure →
      failure.isMisuse = false ∧
      ∃ e, failure = .store e ∧
        (store.answer known = .error e ∨
          store.answer known = .ok true ∧ store.answer verified = .error e) ∧
        (failure.isRetryable = true ↔
          (∃ note, e = .unavailable note) ∨ ∃ error, e = .system error) := by
  intro run known verified
  refine ⟨?_,?_,?_,?_⟩
  · intro e hu
    exact ⟨inquiries_login_of_unconfirmed took (by simp [known, hu]),
      answer_login_of_unreachable took hu⟩
  · intro hu
    exact ⟨inquiries_login_of_unconfirmed took (by simp [known, hu]),
      answer_login_of_unknown store router .standard took hu⟩
  · intro hu
    refine ⟨inquiries_login_of_confirmed took hu,?_,?_,?_⟩
    · intro e hv
      exact answer_login_of_unverifiable took hu hv
    · exact answer_login_of_mismatch store router .standard took hu
    · exact answer_login_of_match store router .standard took hu
  · intro failure h
    obtain ⟨e,rfl,he⟩ := answer_login_eq_error took h
    exact ⟨rfl,e,rfl,he,e.isRetryable_eq_true_iff⟩

/-- A store that fails on secrets only is asked both questions, a store that is down the first one. -/
theorem login_standard_exchange_failing :
    let refused := StoreError.backend "bind refused" (.text "ldap")
    let flaky := Store.scripted 7 (.ok true) (.error refused)
    let down := Store.failing 7 Store.offlineNote
    let attempt : Attempt := ⟨"admin", "admin"⟩
    let login (store : Store) := (standard store .default).login ⟨0, 0⟩ attempt
    Trace.inquiries (login flaky).trace =
      [⟨7, .userExists "admin", .ok true⟩,
        ⟨7, .verifyPassword "admin" "admin", .error refused⟩] ∧
    (login flaky).answer = .error (.store refused) ∧
    Trace.inquiries (login down).trace =
      [⟨7, .userExists "admin", .error (.unavailable Store.offlineNote)⟩] ∧
    ∃ e, (login down).answer = .error (.store e) ∧ (Failure.store e).isRetryable = true := by
  intro refused flaky down attempt login
  obtain ⟨hq,hr,-⟩ := (login_standard_exchange flaky .default ⟨0, 0⟩ attempt).2.2.1 rfl
  obtain ⟨hd,-,-,hf⟩ := login_standard_exchange down .default ⟨0, 0⟩ attempt
  obtain ⟨hdq,hda⟩ := hd (.unavailable Store.offlineNote) rfl
  obtain ⟨-,e,he,-,hretry⟩ := hf _ hda
  refine ⟨hq,hr refused rfl,hdq,e,?_,?_⟩
  · rw [← he]
    exact hda
  · rw [← he]
    exact hretry.mpr (Or.inl ⟨_,(Failure.store.inj he).symm⟩)

end Service

end Turnstile
