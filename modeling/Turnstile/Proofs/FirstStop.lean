import Turnstile.Pipeline
import Turnstile.Proofs.Gates

/-! The law of an evaluation. The gates before the first one that does not let the attempt pass are
asked, and that one after them, each once and in order. Its answer is the result, and what these gates
leave in the trace is the whole trace. -/
namespace Turnstile
namespace Gate

/-- What the log says of an answer that the gate gave at a position. -/
def report (gate : Gate) (position : Nat) : Except Failure Decision → Log.Event
  | .error failure => .gateFailed gate.name position failure
  | .ok decision => .gateDecided gate.name position decision

/-- What asking the gate leaves in the trace: its own effects, then the report of its answer. -/
def footprint (gate : Gate) (spans : List Log.Span) (attempt : Attempt) (position : Nat) :
    List Effect :=
  (gate.check attempt).trace ++
    [.log ⟨spans, gate.report position (gate.check attempt).answer⟩]

/-- The evaluation that ends with this answer of the gate. -/
def settlement (gate : Gate) (position : Nat) (answer : Except Failure Decision) :
    Except Failure Evaluation :=
  answer.map fun decision => ⟨decision, some gate.name, position + 1⟩

end Gate

namespace Pipeline
variable {spans : List Log.Span} {attempt : Attempt} {gate : Gate}

/-- What asking all the gates leaves in the trace, when the first stands at this position. -/
def trail (spans : List Log.Span) (attempt : Attempt) (position : Nat) (gates : List Gate) :
    List Effect :=
  (gates.zipIdx position).flatMap fun (gate, i) => gate.footprint spans attempt i

@[simp] lemma trail_nil (n : Nat) : trail spans attempt n [] = [] := rfl

@[simp] lemma trail_cons (n : Nat) (gates : List Gate) :
    trail spans attempt n (gate :: gates) =
      gate.footprint spans attempt n ++ trail spans attempt (n+1) gates := by
  simp [trail]

lemma trail_append (n : Nat) (before after : List Gate) :
    trail spans attempt n (before ++ after) =
      trail spans attempt n before ++ trail spans attempt (n+before.length) after := by
  simp [trail, List.zipIdx_append]

/-- A gate that lets the attempt pass adds its footprint, and nothing else, to the rest of a run. -/
lemma runFrom_cons_of_passes (h : gate.Passes attempt) (n : Nat) (gates : List Gate) :
    runFrom spans attempt n (gate :: gates) =
      (runFrom spans attempt (n+1) gates).preceded (gate.footprint spans attempt n) := by
  have ha : (gate.check attempt).answer = .ok .proceed := h
  simp [runFrom, Traced.bind, Traced.preceded, Gate.footprint, Gate.report, ha, Decision.isFinal]

/-- Any other gate ends a run, whatever stands after it. -/
lemma runFrom_cons_of_not_passes (h : ¬ gate.Passes attempt) (n : Nat) (gates : List Gate) :
    runFrom spans attempt n (gate :: gates) =
      ⟨gate.settlement n (gate.check attempt).answer, gate.footprint spans attempt n⟩ := by
  cases ha : (gate.check attempt).answer with
  | error failure =>
    simp [runFrom, Traced.bind, Traced.preceded, Gate.footprint, Gate.report, Gate.settlement,
      Except.map, ha]
  | ok decision =>
    have hd : decision ≠ .proceed := by
      rintro rfl
      exact h ha
    have hf : decision.isFinal = true := decision.isFinal_eq_true_iff.mpr hd
    simp [runFrom, Traced.bind, Traced.preceded, Gate.footprint, Gate.report, Gate.settlement,
      Except.map, ha, hf]

lemma runFrom_append_of_passes {before : List Gate} (h : ∀ g ∈ before, g.Passes attempt)
    (n : Nat) (gates : List Gate) :
    runFrom spans attempt n (before ++ gates) =
      (runFrom spans attempt (n+before.length) gates).preceded (trail spans attempt n before) := by
  induction before generalizing n with
  | nil => simp [Traced.preceded]
  | cons gate before ih =>
    have hp : gate.Passes attempt := h gate (by simp)
    have hb := ih (fun g hg => h g (by simp [hg])) (n+1)
    have hn : n+1+before.length = n+(gate :: before).length := by simp; omega
    rw [List.cons_append, runFrom_cons_of_passes hp, hb, hn]
    simp [Traced.preceded]

/-- A run that no gate stops. -/
lemma runFrom_of_passes {gates : List Gate} (h : ∀ g ∈ gates, g.Passes attempt) (n : Nat) :
    runFrom spans attempt n gates =
      ⟨.ok ⟨.proceed, none, n+gates.length⟩, trail spans attempt n gates⟩ := by
  have hr : runFrom spans attempt n (gates ++ []) = _ := runFrom_append_of_passes h n []
  rw [List.append_nil] at hr
  simp [hr, runFrom, Traced.preceded, Traced.plain]

/-- A run that a gate stops after others have let the attempt pass. -/
lemma runFrom_of_stop {before : List Gate} (hb : ∀ g ∈ before, g.Passes attempt)
    (hg : ¬ gate.Passes attempt) (n : Nat) (after : List Gate) :
    runFrom spans attempt n (before ++ gate :: after) =
      ⟨gate.settlement (n+before.length) (gate.check attempt).answer,
        trail spans attempt n (before ++ [gate])⟩ := by
  rw [runFrom_append_of_passes hb, runFrom_cons_of_not_passes hg, trail_append]
  simp [Traced.preceded]

/-- Of these gates, the ones that a run over them asks. -/
def askedFrom (attempt : Attempt) : List Gate → List Gate
  | [] => []
  | gate :: gates =>
    match (gate.check attempt).answer with
    | .ok .proceed => gate :: askedFrom attempt gates
    | _ => [gate]

lemma askedFrom_cons_of_passes (h : gate.Passes attempt) (gates : List Gate) :
    askedFrom attempt (gate :: gates) = gate :: askedFrom attempt gates := by
  have ha : (gate.check attempt).answer = .ok .proceed := h
  simp [askedFrom, ha]

lemma askedFrom_cons_of_not_passes (h : ¬ gate.Passes attempt) (gates : List Gate) :
    askedFrom attempt (gate :: gates) = [gate] := by
  rw [askedFrom]
  split
  · contradiction
  · rfl

/-- A gate is asked only after gates that let the attempt pass, and these are all that stand before it. -/
lemma askedFrom_split {gates before more : List Gate}
    (h : askedFrom attempt gates = before ++ gate :: more) :
    (∃ after, gates = before ++ gate :: after) ∧ ∀ g ∈ before, g.Passes attempt := by
  induction gates generalizing before with
  | nil => simp [askedFrom] at h
  | cons g gates ih =>
    by_cases hp : g.Passes attempt
    · rw [askedFrom_cons_of_passes hp] at h
      cases before with
      | nil =>
        obtain ⟨rfl,-⟩ := List.cons.inj h
        exact ⟨⟨gates,rfl⟩, by simp⟩
      | cons b before =>
        obtain ⟨rfl,ht⟩ := List.cons.inj h
        obtain ⟨⟨after,rfl⟩,hb⟩ := ih ht
        exact ⟨⟨after,rfl⟩, List.forall_mem_cons.mpr ⟨hp,hb⟩⟩
    · rw [askedFrom_cons_of_not_passes hp] at h
      cases before with
      | nil =>
        obtain ⟨rfl,-⟩ := List.cons.inj h
        exact ⟨⟨gates,rfl⟩, by simp⟩
      | cons b before => simp at h

lemma trace_runFrom (n : Nat) (gates : List Gate) :
    (runFrom spans attempt n gates).trace = trail spans attempt n (askedFrom attempt gates) := by
  induction gates generalizing n with
  | nil => rfl
  | cons gate gates ih =>
    by_cases hp : gate.Passes attempt
    · rw [runFrom_cons_of_passes hp, askedFrom_cons_of_passes hp, trail_cons, ← ih]
      rfl
    · rw [runFrom_cons_of_not_passes hp, askedFrom_cons_of_not_passes hp]
      simp

variable (p : Pipeline) (around : List Log.Span)

/-- The gates that an evaluation asks, in order. -/
def asked (attempt : Attempt) : List Gate := askedFrom attempt p.gates

/-- The spans that the gates are asked in. -/
def gateSpans (attempt : Attempt) : List Log.Span := around ++ [.evaluation attempt.identity p.count]

lemma trace_evaluate :
    (p.evaluate around attempt).trace =
      trail (p.gateSpans around attempt) attempt 0 (p.asked attempt) :=
  trace_runFrom 0 p.gates

lemma evaluate_of_passes (h : ∀ g ∈ p.gates, g.Passes attempt) :
    p.evaluate around attempt =
      ⟨.ok ⟨.proceed, none, p.count⟩, trail (p.gateSpans around attempt) attempt 0 p.gates⟩ := by
  rw [evaluate, runFrom_of_passes h]
  simp [gateSpans, count]

lemma evaluate_of_stop {before after : List Gate} (hs : p.gates = before ++ gate :: after)
    (hb : ∀ g ∈ before, g.Passes attempt) (hg : ¬ gate.Passes attempt) :
    p.evaluate around attempt =
      ⟨gate.settlement before.length (gate.check attempt).answer,
        trail (p.gateSpans around attempt) attempt 0 (before ++ [gate])⟩ := by
  rw [evaluate, hs, runFrom_of_stop hb hg]
  simp [gateSpans]

/-- The position of the first gate that does not let the attempt pass is the length of `before`. That
gate alone determines the result, in both forms of an evaluation. The trace holds the footprints of the
gates up to it, and any other gates in the places after it would make the same evaluation. -/
theorem evaluate_first_stop (p : Pipeline) (around : List Log.Span) (attempt : Attempt) :
    (p.decide around attempt).trace = (p.evaluate around attempt).trace ∧
    ((∀ gate ∈ p.gates, gate.Passes attempt) →
      (p.evaluate around attempt).answer = .ok ⟨.proceed, none, p.gates.length⟩ ∧
      (p.decide around attempt).answer = .ok .proceed ∧
      (p.evaluate around attempt).trace = trail (p.gateSpans around attempt) attempt 0 p.gates) ∧
    (∀ before gate after, p.gates = before ++ gate :: after →
      (∀ earlier ∈ before, earlier.Passes attempt) → ¬ gate.Passes attempt →
        (∀ decision, (gate.check attempt).answer = .ok decision →
          (p.evaluate around attempt).answer =
            .ok ⟨decision, some gate.name, before.length+1⟩ ∧
          (p.decide around attempt).answer = .ok decision) ∧
        (∀ failure, (gate.check attempt).answer = .error failure →
          (p.evaluate around attempt).answer = .error failure ∧
          (p.decide around attempt).answer = .error failure) ∧
        (p.evaluate around attempt).trace =
          trail (p.gateSpans around attempt) attempt 0 (before ++ [gate]) ∧
        ∀ later : List Gate, later.length = after.length →
          evaluate ⟨before ++ gate :: later⟩ around attempt = p.evaluate around attempt) := by
  refine ⟨rfl,?_,?_⟩
  · intro h
    have he := p.evaluate_of_passes around h
    refine ⟨?_,?_,?_⟩
    · rw [he]; rfl
    · rw [decide, he]; rfl
    · rw [he]
  · intro before gate after hs hb hg
    have he := p.evaluate_of_stop around hs hb hg
    refine ⟨?_,?_,?_,?_⟩
    · intro decision ha
      rw [decide, he, ha]
      exact ⟨rfl,rfl⟩
    · intro failure ha
      rw [decide, he, ha]
      exact ⟨rfl,rfl⟩
    · rw [he]
    · intro later hl
      have hcount : Pipeline.count ⟨before ++ gate :: later⟩ = p.count := by
        simp [count, hs, hl]
      rw [he, evaluate_of_stop ⟨before ++ gate :: later⟩ around rfl hb hg, gateSpans, hcount, gateSpans]

/-- Of two gates with one name the second rejects, and the gate after it would fail. -/
theorem evaluate_second_of_same_name :
    let audit : Gate := .bare "audit" (.ok .proceed)
    let veto : Gate := .bare "audit" (.ok (.reject .badPassword))
    let broken : Gate := .bare "late" (.error (.store (.unavailable Store.offlineNote)))
    (∀ earlier ∈ [audit], earlier.Passes ⟨"admin", ""⟩) ∧ ¬ veto.Passes ⟨"admin", ""⟩ ∧
      (evaluate ⟨[audit, veto, broken]⟩ [] ⟨"admin", ""⟩).answer =
        .ok ⟨.reject .badPassword, some "audit", 2⟩ := by
  intro audit veto broken
  have ha : ∀ earlier ∈ [audit], earlier.Passes ⟨"admin", ""⟩ := by
    intro earlier he
    rw [List.mem_singleton.mp he]
    rfl
  have hv : ¬ veto.Passes ⟨"admin", ""⟩ := by simp [veto, Gate.Passes, Gate.bare]
  have h := (evaluate_first_stop ⟨[audit, veto, broken]⟩ [] ⟨"admin", ""⟩).2.2
    [audit] veto [broken] rfl ha hv
  exact ⟨ha,hv,(h.1 _ rfl).1⟩

end Pipeline

end Turnstile
