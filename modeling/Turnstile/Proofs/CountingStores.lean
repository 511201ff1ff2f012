import Mathlib.Data.List.Nodup
import Turnstile.Proofs.KnownGates

/-! Counting stores, any number of them around a store. They change no answer and add nothing to a trace
but the questions on record at them, of which there is one for each gate that asks the store. -/
namespace Turnstile

namespace Trace

/-- All of the trace but the questions on record at these stores. -/
def without (levels : List Nat) (trace : List Effect) : List Effect :=
  trace.filter fun
    | .query store _ _ => store ∉ levels
    | _ => true

@[simp] lemma without_append (levels : List Nat) (before after : List Effect) :
    without levels (before ++ after) = without levels before ++ without levels after :=
  List.filter_append before after

end Trace

namespace Traced
variable {α : Type} (levels : List Nat)

/-- The run as it is seen without the questions on record at these stores. -/
def without (run : Traced α) : Traced α := ⟨run.answer, Trace.without levels run.trace⟩

lemma without_preceded (effects : List Effect) (run : Traced α) :
    (run.preceded effects).without levels =
      (run.without levels).preceded (Trace.without levels effects) := by
  simp [without, preceded]

end Traced

namespace Store
variable (levels : List Nat) (store : Store)

/-- The store inside counting stores with these labels, the outermost first. -/
def counted : Store := levels.foldr counting store

@[simp] lemma answer_counted : (store.counted levels).answer = store.answer := by
  induction levels with
  | nil => rfl
  | cons level levels ih => exact ih

lemma reached_counted : (store.counted levels).reached = levels ++ store.reached := by
  induction levels with
  | nil => rfl
  | cons level levels ih => exact congrArg (level :: ·) ih

variable {levels store}

lemma count_reached_counted (hl : levels.Nodup) (hd : levels.Disjoint store.reached) {level : Nat}
    (h : level ∈ levels) : (store.counted levels).reached.count level = 1 := by
  have hi : store.reached.count level = 0 := List.count_eq_zero.mpr (hd h)
  rw [reached_counted, List.count_append, List.count_eq_one_of_mem hl h, hi]

lemma ask_counted (hd : levels.Disjoint store.reached) (query : Query) :
    ((store.counted levels).ask query).without levels = store.ask query := by
  have ho : levels.filter (· ∉ levels) = [] := by simp
  have hi : store.reached.filter (· ∉ levels) = store.reached := by
    simpa using fun label hs hl => hd hl hs
  have hf : Trace.without levels ((store.counted levels).ask query).trace =
      ((levels ++ store.reached).filter (· ∉ levels)).map fun label =>
        .query label query (store.answer query) := by
    rw [ask, reached_counted, answer_counted, Trace.without, List.filter_map]
    rfl
  rw [Traced.without, hf, List.filter_append, ho, hi]
  simp [ask]

end Store

namespace Part
variable {levels : List Nat} {part : Part Store}

lemma check_counted (hd : ∀ store ∈ part.store?, levels.Disjoint store.reached)
    (attempt : Attempt) :
    ((part.map (Store.counted levels)).gate.check attempt).without levels =
      part.gate.check attempt := by
  cases part with
  | userExists store =>
    exact congrArg (Traced.map (Decision.ofReply .unknownUser))
      (Store.ask_counted (hd store rfl) (.userExists attempt.identity))
  | passwordMatch store =>
    exact congrArg (Traced.map (Decision.ofReply .badPassword))
      (Store.ask_counted (hd store rfl) (.verifyPassword attempt.identity attempt.secret))
  | roleRoute router => rfl
  | rule name requires terminates decide => rfl

lemma store?_map {σ τ : Type} (f : σ → τ) (part : Part σ) :
    (part.map f).store? = part.store?.map f := by
  cases part <;> rfl

lemma name_gate_map (f : Store → Store) : (part.map f).gate.name = part.gate.name := by
  cases part <;> rfl

end Part

namespace Pipeline
variable {levels : List Nat} {attempt : Attempt}

/-- Without the questions on record at the counting stores it is the run without these stores. -/
lemma runFrom_counted (spans : List Log.Span) (attempt : Attempt) {parts : List (Part Store)}
    (hd : ∀ part ∈ parts, ∀ store ∈ part.store?, levels.Disjoint store.reached) (n : Nat) :
    (runFrom spans attempt n (parts.map fun part =>
      (part.map (Store.counted levels)).gate)).without levels =
      runFrom spans attempt n (parts.map Part.gate) := by
  -- A gate answers the same with and without the counting stores, so both runs end at the same gate.
  induction parts generalizing n with
  | nil => rfl
  | cons part parts ih =>
    obtain ⟨hp,hr⟩ := List.forall_mem_cons.mp hd
    have hc := Part.check_counted hp attempt
    have ha : ((part.map (Store.counted levels)).gate.check attempt).answer =
        (part.gate.check attempt).answer := congrArg (·.answer) hc
    have ht : Trace.without levels ((part.map (Store.counted levels)).gate.check attempt).trace =
        (part.gate.check attempt).trace := congrArg (·.trace) hc
    have hf : Trace.without levels
        ((part.map (Store.counted levels)).gate.footprint spans attempt n) =
          part.gate.footprint spans attempt n := by
      rw [Gate.footprint, Trace.without_append, ht, ha]
      cases hx : (part.gate.check attempt).answer <;>
        simp [Gate.footprint, Gate.report, Part.name_gate_map, Trace.without, hx]
    rw [List.map_cons, List.map_cons]
    by_cases h : part.gate.Passes attempt
    · have hw : (part.map (Store.counted levels)).gate.Passes attempt := ha.trans h
      rw [runFrom_cons_of_passes hw, runFrom_cons_of_passes h, Traced.without_preceded, hf, ih hr]
    · have hw : ¬ (part.map (Store.counted levels)).gate.Passes attempt := fun hw =>
        h (ha.symm.trans hw)
      rw [runFrom_cons_of_not_passes hw, runFrom_cons_of_not_passes h, Traced.without, hf, ha,
        Gate.settlement, Part.name_gate_map]
      rfl

/-- An evaluation that does not fail says how many gates it asked. -/
lemma length_asked (p : Pipeline) (around : List Log.Span) {e : Evaluation}
    (h : (p.evaluate around attempt).answer = .ok e) : (p.asked attempt).length = e.gatesRun := by
  cases Course.of attempt p.gates with
  | passed all =>
    rw [p.evaluate_of_passes around all] at h
    obtain rfl := Except.ok.inj h
    rw [asked, askedFrom_of_passes all]
    rfl
  | decided before gate after decision split earlier answer final =>
    have hg := Gate.not_passes_of_decision answer final
    rw [p.evaluate_of_stop around split earlier hg, answer] at h
    obtain rfl := Except.ok.inj h
    rw [asked, split, askedFrom_of_stop earlier hg]
    simp
  | failed before gate after failure split earlier answer =>
    rw [p.evaluate_of_stop around split earlier (Gate.not_passes_of_failure answer), answer] at h
    cases h

end Pipeline

/-- One evaluation of gates of known make. -/
structure Hearing where
  parts : List (Part Store)
  attempt : Attempt
  around : List Log.Span

namespace Hearing
variable (hearing : Hearing)

def pipeline : Pipeline := ⟨hearing.parts.map Part.gate⟩

def run : Traced (Except Failure Evaluation) :=
  hearing.pipeline.evaluate hearing.around hearing.attempt

/-- The gates that are asked, in order. -/
def asked : List (Part Store) :=
  hearing.parts.take (hearing.pipeline.asked hearing.attempt).length

/-- The same evaluation with counting stores around every store. -/
def counted (levels : List Nat) (hearing : Hearing) : Hearing :=
  { hearing with parts := hearing.parts.map (Part.map (Store.counted levels)) }

lemma map_gate_asked : hearing.asked.map Part.gate = hearing.pipeline.asked hearing.attempt := by
  have hp := Pipeline.askedFrom_prefix hearing.attempt hearing.pipeline.gates
  rw [asked, List.map_take]
  exact (List.prefix_iff_eq_take.mp hp).symm

lemma run_counted {levels : List Nat}
    (hd : ∀ part ∈ hearing.parts, ∀ store ∈ part.store?, levels.Disjoint store.reached) :
    (hearing.counted levels).run.without levels = hearing.run := by
  have hr := Pipeline.runFrom_counted
    (hearing.pipeline.gateSpans hearing.around hearing.attempt) hearing.attempt hd 0
  simpa [run, Pipeline.evaluate, pipeline, counted, Pipeline.count, Pipeline.gateSpans,
    Function.comp_def] using hr

lemma calls_run_counted {levels : List Nat} (hl : levels.Nodup)
    (hd : ∀ part ∈ hearing.parts, ∀ store ∈ part.store?, levels.Disjoint store.reached)
    {level : Nat} (h : level ∈ levels) (kind : QueryKind) :
    Trace.calls level kind (hearing.counted levels).run.trace =
      (hearing.counted levels).asked.countP (Part.asks kind) := by
  -- The stores that the gates ask are the counted ones, and a question passes each level once.
  have hc : ∀ part ∈ (hearing.counted levels).asked, ∀ store ∈ part.store?,
      store.reached.count level = 1 := by
    intro part hp store hs
    obtain ⟨bare,hb,rfl⟩ := List.mem_map.mp (List.mem_of_mem_take hp)
    rw [Part.store?_map] at hs
    obtain ⟨inner,hi,rfl⟩ := Option.map_eq_some_iff.mp hs
    exact Store.count_reached_counted hl (hd bare hb inner hi) h
  have ht : Trace.queries level (hearing.counted levels).run.trace =
      Trace.queries level (Pipeline.doings hearing.attempt
        ((hearing.counted levels).asked.map Part.gate)) := by
    rw [run, Pipeline.trace_evaluate, map_gate_asked]
    exact Pipeline.filterMap_trail (fun _ => rfl) 0 _
  rw [Trace.calls, ht]
  exact Part.calls_doings hc hearing.attempt kind

lemma calls_history_counted {levels : List Nat} (hl : levels.Nodup) {hearings : List Hearing}
    (hd : ∀ hearing ∈ hearings, ∀ part ∈ hearing.parts, ∀ store ∈ part.store?,
      levels.Disjoint store.reached) {level : Nat} (h : level ∈ levels) (kind : QueryKind) :
    Trace.calls level kind ((hearings.map (counted levels)).flatMap fun hearing =>
      hearing.run.trace) =
        ((hearings.map (counted levels)).flatMap asked).countP (Part.asks kind) := by
  induction hearings with
  | nil => rfl
  | cons hearing hearings ih =>
    obtain ⟨hh,hr⟩ := List.forall_mem_cons.mp hd
    rw [List.map_cons, List.flatMap_cons, List.flatMap_cons, Trace.calls_append,
      List.countP_append, ih hr, calls_run_counted hearing hl hh h]

/-- A history of evaluations, with counting stores around all stores. Their labels are their own. The
parts may hold one store or several, and if the answers of a store change in time, each part holds the store
as it is when its turn comes. Every evaluation gives the answer that it gives without the counting stores,
and apart from the questions on record at these its trace is the same. The gates asked are the first ones,
as many as the evaluation says if it does not fail, and it is their footprints that make the trace. When the
history is over, the counters of each counting store say how many gates of each kind were asked. -/
theorem history_counted {levels : List Nat} (hl : levels.Nodup) {hearings : List Hearing}
    (hd : ∀ hearing ∈ hearings, ∀ part ∈ hearing.parts, ∀ store ∈ part.store?,
      levels.Disjoint store.reached) :
    let history := hearings.map (counted levels)
    let trace := history.flatMap fun hearing => hearing.run.trace
    let asked := history.flatMap Hearing.asked
    (∀ hearing ∈ hearings,
      (hearing.counted levels).run.answer = hearing.run.answer ∧
        Trace.without levels (hearing.counted levels).run.trace = hearing.run.trace) ∧
    (∀ hearing ∈ history,
      hearing.asked <+: hearing.parts ∧
        (∀ e, hearing.run.answer = .ok e → hearing.asked.length = e.gatesRun) ∧
        hearing.run.trace = Pipeline.trail
          (hearing.pipeline.gateSpans hearing.around hearing.attempt) hearing.attempt 0
          (hearing.asked.map Part.gate)) ∧
    ∀ level ∈ levels,
      Trace.calls level .userExists trace = asked.countP (Part.asks .userExists) ∧
      Trace.calls level .verifyPassword trace = asked.countP (Part.asks .verifyPassword) ∧
      (Trace.queries level trace).length =
        asked.countP (Part.asks .userExists) + asked.countP (Part.asks .verifyPassword) := by
  intro history trace asked
  refine ⟨?_,?_,?_⟩
  · intro hearing hh
    have hr := hearing.run_counted (hd hearing hh)
    exact ⟨congrArg (·.answer) hr,congrArg (·.trace) hr⟩
  · intro hearing _
    refine ⟨List.take_prefix _ _,?_,?_⟩
    · intro e he
      rw [← hearing.pipeline.length_asked hearing.around he, ← map_gate_asked, List.length_map]
    · rw [map_gate_asked]
      exact hearing.pipeline.trace_evaluate hearing.around
  · intro level hlevel
    have hc := calls_history_counted hl hd hlevel
    refine ⟨hc .userExists,hc .verifyPassword,?_⟩
    rw [Trace.length_queries, hc, hc]

/-- A store that fails to verify secrets, inside two counting stores. The gate that fails is counted, and
the gates behind a rejection or a failure are not, although two of them ask the same question. -/
theorem history_counted_failing :
    let store (known : Bool) : Store :=
      .scripted 0 (.ok known) (.error (.unavailable Store.offlineNote))
    let lax : Part Store := .rule "lax" [] false fun _ => .proceed
    let parts (store : Store) : List (Part Store) :=
      [lax, .userExists store, .userExists store, .passwordMatch store,
        .passwordMatch store, .roleRoute .default]
    let hearings : List Hearing :=
      [⟨parts (store true), ⟨"admin", "x"⟩, []⟩, ⟨parts (store false), ⟨"guest", "y"⟩, []⟩]
    let trace := (hearings.map (counted [1, 2])).flatMap fun hearing => hearing.run.trace
    [1, 2].Nodup ∧
      (∀ hearing ∈ hearings, ∀ part ∈ hearing.parts, ∀ store ∈ part.store?,
        [1, 2].Disjoint store.reached) ∧
      ∀ level ∈ [1, 2],
        Trace.calls level .userExists trace = 3 ∧ Trace.calls level .verifyPassword trace = 1 ∧
          (Trace.queries level trace).length = 4 := by
  intro store lax parts hearings trace
  have hl : [1, 2].Nodup := by decide
  have hd : ∀ hearing ∈ hearings, ∀ part ∈ hearing.parts, ∀ store ∈ part.store?,
      [1, 2].Disjoint store.reached := by
    simp [hearings, parts, lax, store, Part.store?, Store.scripted, Store.reached]
  exact ⟨hl,hd,(history_counted hl hd).2.2⟩

end Hearing

end Turnstile
