import Mathlib.Tactic.Common
import Turnstile.Gate

/-! When a gate lets an attempt pass, and what the three gates of every service answer and ask. -/
namespace Turnstile

/-- The gate has no objection to the attempt: the next one decides. -/
def Gate.Passes (gate : Gate) (attempt : Attempt) : Prop :=
  (gate.check attempt).answer = .ok .proceed

namespace Decision

lemma isFinal_eq_true_iff (d : Decision) : d.isFinal = true ↔ d ≠ .proceed := by
  cases d <;> simp [isFinal]

lemma ofReply_eq_proceed_iff (reason : Reason) (reply : Except StoreError Bool) :
    ofReply reason reply = .ok .proceed ↔ reply = .ok true := by
  rcases reply with e | known
  · simp [ofReply]
  · cases known <;> simp [ofReply]

end Decision

lemma GateKind.name_injective : Function.Injective GateKind.name := by
  intro a b h
  cases a <;> cases b <;> simp_all [name]

namespace Store
variable (store : Store) (query : Query)

lemma mem_trace_ask {e : Effect} :
    e ∈ (store.ask query).trace ↔
      ∃ label ∈ store.reached, e = .query label query (store.answer query) := by
  simp [ask, eq_comm]

@[simp] lemma label_mem_reached : store.label ∈ store.reached := List.mem_cons_self

end Store

namespace Gate
variable (store : Store) (attempt : Attempt)

lemma name_passwordMatch_ne : (passwordMatch store).name ≠ GateKind.userExists.name := by
  intro h
  have hk : GateKind.passwordMatch.name = GateKind.userExists.name := h
  cases GateKind.name_injective hk

lemma name_roleRoute_ne (router : Router) :
    (roleRoute router).name ≠ GateKind.userExists.name := by
  intro h
  have hk : GateKind.roleRoute.name = GateKind.userExists.name := h
  cases GateKind.name_injective hk

@[simp] lemma answer_check_userExists :
    ((userExists store).check attempt).answer =
      Decision.ofReply .unknownUser (store.answer (.userExists attempt.identity)) := rfl

@[simp] lemma trace_check_userExists :
    ((userExists store).check attempt).trace =
      (store.ask (.userExists attempt.identity)).trace := rfl

@[simp] lemma answer_check_passwordMatch :
    ((passwordMatch store).check attempt).answer =
      Decision.ofReply .badPassword
        (store.answer (.verifyPassword attempt.identity attempt.secret)) := rfl

@[simp] lemma trace_check_passwordMatch :
    ((passwordMatch store).check attempt).trace =
      (store.ask (.verifyPassword attempt.identity attempt.secret)).trace := rfl

@[simp] lemma answer_check_roleRoute (router : Router) :
    ((roleRoute router).check attempt).answer =
      .ok (.terminate (router.routeFor attempt.identity)) := rfl

@[simp] lemma trace_check_roleRoute (router : Router) :
    ((roleRoute router).check attempt).trace = [] := rfl

lemma passes_userExists_iff :
    (userExists store).Passes attempt ↔
      store.answer (.userExists attempt.identity) = .ok true :=
  Decision.ofReply_eq_proceed_iff _ _

lemma passes_passwordMatch_iff :
    (passwordMatch store).Passes attempt ↔
      store.answer (.verifyPassword attempt.identity attempt.secret) = .ok true :=
  Decision.ofReply_eq_proceed_iff _ _

end Gate

end Turnstile
