import Turnstile.Proofs.LoginRun
import Turnstile.Proofs.Ordering

/-! Gates that only let an attempt pass or turn it away, in one order or in another, before the same other
gates. Whether the attempt gets past them does not depend on the order, and if it does, nothing that follows
depends on it either. If it does not, each order has its own first gate that turns it away. -/
namespace Turnstile

/-- The gate lets the attempt pass or turns it away. It does not fail and it grants nothing. -/
def Gate.Vets (gate : Gate) (attempt : Attempt) : Prop :=
  gate.Passes attempt ∨ ∃ reason, (gate.check attempt).answer = .ok (.reject reason)

/-- What the evaluation comes to when so many gates were run before it. -/
def Evaluation.after (e : Evaluation) (n : Nat) : Evaluation := { e with gatesRun := n+e.gatesRun }

namespace Pipeline
variable {attempt : Attempt}

/-- Gates decide alike wherever the first of them stands and whatever spans they are asked in. -/
lemma answer_runFrom (spans others : List Log.Span) (n : Nat) (gates : List Gate) :
    (runFrom spans attempt n gates).answer =
      (runFrom others attempt 0 gates).answer.map fun e => e.after n := by
  cases Course.of attempt gates with
  | passed all =>
    rw [runFrom_of_passes all, runFrom_of_passes all]
    simp [Except.map, Evaluation.after]
  | decided before gate after decision split earlier answer final =>
    have hg := Gate.not_passes_of_decision answer final
    rw [split, runFrom_of_stop earlier hg, runFrom_of_stop earlier hg, answer]
    simp [Except.map, Evaluation.after, Gate.settlement, Nat.add_assoc]
  | failed before gate after failure split earlier answer =>
    have hg := Gate.not_passes_of_failure answer
    rw [split, runFrom_of_stop earlier hg, runFrom_of_stop earlier hg, answer]
    simp [Except.map, Gate.settlement]

section Checks
variable {p : Pipeline} {checks tail : List Gate} (around : List Log.Span)

/-- The first of these gates that does not let the attempt pass rejects it, and with it the evaluation is
over. -/
def RejectedAmong (p : Pipeline) (around : List Log.Span) (attempt : Attempt) (checks : List Gate)
    (reason : Reason) : Prop :=
  ∃ before gate after, checks = before ++ gate :: after ∧ (∀ g ∈ before, g.Passes attempt) ∧
    (gate.check attempt).answer = .ok (.reject reason) ∧
      p.evaluate around attempt =
        ⟨.ok ⟨.reject reason, some gate.name, before.length+1⟩,
          trail (p.gateSpans around attempt) attempt 0 (before ++ [gate])⟩

lemma RejectedAmong.exists_mem {around : List Log.Span} {reason : Reason}
    (h : p.RejectedAmong around attempt checks reason) :
    ∃ gate ∈ checks, (gate.check attempt).answer = .ok (.reject reason) := by
  obtain ⟨before,gate,after,rfl,-,ha,-⟩ := h
  exact ⟨gate,by simp,ha⟩

lemma exists_rejectedAmong (hs : p.gates = checks ++ tail) (hv : ∀ g ∈ checks, g.Vets attempt)
    (hn : ∃ g ∈ checks, ¬ g.Passes attempt) :
    ∃ reason, p.RejectedAmong around attempt checks reason := by
  cases Course.of attempt checks with
  | passed all =>
    obtain ⟨gate,hg,hp⟩ := hn
    exact absurd (all gate hg) hp
  | decided before gate after decision split earlier answer final =>
    have hg := Gate.not_passes_of_decision answer final
    have hp : p.gates = before ++ gate :: (after ++ tail) := by rw [hs, split]; simp
    rcases hv gate (by simp [split]) with hpass | ⟨reason,hr⟩
    · exact absurd hpass hg
    · refine ⟨reason,before,gate,after,split,earlier,hr,?_⟩
      rw [p.evaluate_of_stop around hp earlier hg, hr]
      rfl
  | failed before gate after failure split earlier answer =>
    rcases hv gate (by simp [split]) with hpass | ⟨reason,hr⟩
    · exact absurd hpass (Gate.not_passes_of_failure answer)
    · cases hr.symm.trans answer

lemma evaluate_past (hs : p.gates = checks ++ tail) (hp : ∀ g ∈ checks, g.Passes attempt) :
    p.evaluate around attempt =
      (runFrom (p.gateSpans around attempt) attempt checks.length tail).preceded
        (trail (p.gateSpans around attempt) attempt 0 checks) := by
  rw [evaluate, hs, runFrom_append_of_passes hp, Nat.zero_add]
  rfl

end Checks

/-- The same checks in two orders, with the same gates after them, in pipelines that are frozen as they stand.
If all checks let the attempt pass, both evaluations come to what the gates after them come to, and do the same
once the checks are done. If not, both reject the attempt because of a check, each at the first in its own
order that does, for the reason that this one gives; it is a reason that one of the checks gives whatever the
order. -/
theorem evaluate_reordered {checks others : List Gate} (hp : checks.Perm others) {attempt : Attempt}
    (hv : ∀ gate ∈ checks, gate.Vets attempt) (tail : List Gate) (around : List Log.Span) :
    let built (front : List Gate) : Pipeline :=
      (PipelineDraft.empty.appendAll (front ++ tail)).freezeUnchecked
    let run (front : List Gate) := (built front).evaluate around attempt
    let spans := (built checks).gateSpans around attempt
    let rest := (runFrom spans attempt checks.length tail).trace
    ((∀ gate ∈ checks, gate.Passes attempt) →
      (run checks).answer = (run others).answer ∧
      (run checks).answer =
        (evaluate ⟨tail⟩ around attempt).answer.map (fun e => e.after checks.length) ∧
      (run checks).trace = trail spans attempt 0 checks ++ rest ∧
      (run others).trace = trail spans attempt 0 others ++ rest) ∧
    ((∃ gate ∈ checks, ¬ gate.Passes attempt) →
      ∃ reason other, (built checks).RejectedAmong around attempt checks reason ∧
        (built others).RejectedAmong around attempt others other ∧
        (∃ gate ∈ checks, (gate.check attempt).answer = .ok (.reject reason)) ∧
        ∃ gate ∈ checks, (gate.check attempt).answer = .ok (.reject other)) := by
  intro built run spans rest
  have hb (front : List Gate) : (built front).gates = front ++ tail := by
    simp [built, PipelineDraft.freezeUnchecked, PipelineDraft.empty]
  have hc : (built checks).count = (built others).count := by
    rw [count, count, hb, hb, List.length_append, List.length_append, hp.length_eq]
  have hspans : (built others).gateSpans around attempt = spans := by
    rw [gateSpans, ← hc]
    rfl
  constructor
  · intro h
    have ho : ∀ gate ∈ others, gate.Passes attempt := fun gate hg => h gate (hp.mem_iff.mpr hg)
    have hl := evaluate_past around (hb checks) h
    have hr := evaluate_past around (hb others) ho
    rw [hspans, ← hp.length_eq] at hr
    refine ⟨?_,?_,congrArg (·.trace) hl,congrArg (·.trace) hr⟩
    · change ((built checks).evaluate around attempt).answer =
        ((built others).evaluate around attempt).answer
      rw [hl, hr]
      rfl
    · exact (congrArg (·.answer) hl).trans (answer_runFrom _ _ _ tail)
  · intro h
    have ho : ∃ gate ∈ others, ¬ gate.Passes attempt := by
      obtain ⟨gate,hg,hn⟩ := h
      exact ⟨gate,hp.mem_iff.mp hg,hn⟩
    have hvo : ∀ gate ∈ others, gate.Vets attempt := fun gate hg => hv gate (hp.mem_iff.mpr hg)
    obtain ⟨reason,hl⟩ := exists_rejectedAmong around (hb checks) hv h
    obtain ⟨other,hr⟩ := exists_rejectedAmong around (hb others) hvo ho
    obtain ⟨gate,hg,ha⟩ := hr.exists_mem
    exact ⟨reason,other,hl,hr,hl.exists_mem,gate,hp.mem_iff.mpr hg,ha⟩

/-- Two checks that reject for different reasons, and one that never does. An attempt that both reject is told
the reason of the one that comes first; for an attempt that gets past them the order cannot be seen. -/
theorem evaluate_reordered_two_reasons :
    let lax : Gate := .ofRule "lax" [] false fun _ => .proceed
    let known : Gate := .ofRule "known" [] false fun attempt =>
      if attempt.identity = "admin" then .proceed else .reject .unknownUser
    let strong : Gate := .ofRule "strong" [] false fun attempt =>
      if attempt.secret = "" then .reject .badPassword else .proceed
    let run (gates : List Gate) (attempt : Attempt) :=
      ((PipelineDraft.empty.appendAll (gates ++ [.roleRoute .default])).freezeUnchecked.evaluate []
        attempt).answer
    (∀ attempt, ∀ gate ∈ [lax, known, strong], gate.Vets attempt) ∧
      run [lax, known, strong] ⟨"admin", "x"⟩ = run [strong, lax, known] ⟨"admin", "x"⟩ ∧
      run [strong, lax, known] ⟨"admin", "x"⟩ = .ok ⟨.terminate .admin, some "role_route", 4⟩ ∧
      run [lax, known, strong] ⟨"guest", ""⟩ = .ok ⟨.reject .unknownUser, some "known", 2⟩ ∧
      run [strong, lax, known] ⟨"guest", ""⟩ = .ok ⟨.reject .badPassword, some "strong", 1⟩ := by
  intro lax known strong run
  have hp : [lax, known, strong].Perm [strong, lax, known] :=
    (List.perm_append_comm : ([lax, known] ++ [strong]).Perm ([strong] ++ [lax, known]))
  have hl (attempt : Attempt) : lax.Vets attempt := Or.inl rfl
  have hk (attempt : Attempt) : known.Vets attempt := by
    by_cases h : attempt.identity = "admin"
    · exact Or.inl (by simp [Gate.Passes, known, Gate.ofRule, h])
    · exact Or.inr ⟨.unknownUser,by simp [known, Gate.ofRule, h]⟩
  have hs (attempt : Attempt) : strong.Vets attempt := by
    by_cases h : attempt.secret = ""
    · exact Or.inr ⟨.badPassword,by simp [strong, Gate.ofRule, h]⟩
    · exact Or.inl (by simp [Gate.Passes, strong, Gate.ofRule, h])
  have hv (attempt : Attempt) : ∀ gate ∈ [lax, known, strong], gate.Vets attempt := by
    simp [hl, hk, hs]
  have ha : ∀ gate ∈ [lax, known, strong], gate.Passes ⟨"admin", "x"⟩ := by
    simp [Gate.Passes, lax, known, strong, Gate.ofRule]
  have h := (evaluate_reordered hp (hv ⟨"admin", "x"⟩) [.roleRoute .default] []).1 ha
  exact ⟨hv,h.1,rfl,rfl,rfl⟩

end Pipeline

end Turnstile
