import Turnstile.Proofs.LoginRun

/-! Gates of known make: the three of every service, and rules. What such a gate asks its store can be told
from the attempt alone, so the questions of an evaluation are counted by counting the gates that it asks. -/
namespace Turnstile

namespace Trace
variable {label : Nat} {kind : QueryKind}

@[simp] lemma queries_append (before after : List Effect) :
    queries label (before ++ after) = queries label before ++ queries label after :=
  List.filterMap_append

lemma calls_append (before after : List Effect) :
    calls label kind (before ++ after) = calls label kind before + calls label kind after := by
  simp [calls]

lemma queries_map_measure (ms : List Measurement) : queries label (ms.map .measure) = [] := by
  induction ms with
  | nil => rfl
  | cons m ms ih => exact ih

/-- Every question is of one kind or the other. -/
lemma length_queries (trace : List Effect) :
    (queries label trace).length =
      calls label .userExists trace + calls label .verifyPassword trace := by
  have hk (q : Query) : (¬ decide (q.kind = .userExists) = true) ↔ q.kind = .verifyPassword := by
    cases q <;> simp [Query.kind]
  have h := List.length_eq_countP_add_countP (fun q : Query => q.kind = .userExists)
    (l := queries label trace)
  simpa only [calls, hk] using h

end Trace

/-- A question is on record at a store as often as it passes there. -/
lemma Store.calls_ask (store : Store) (query : Query) (label : Nat) (kind : QueryKind) :
    Trace.calls label kind (store.ask query).trace =
      if query.kind = kind then store.reached.count label else 0 := by
  have hq : Trace.queries label (store.ask query).trace =
      List.replicate (store.reached.count label) query := by
    rw [ask]
    induction store.reached with
    | nil => rfl
    | cons other rest ih =>
      rw [List.map_cons, ← List.singleton_append, Trace.queries_append, ih, List.count_cons]
      by_cases h : other = label
      · simp [Trace.queries, h, List.replicate_succ]
      · simp [Trace.queries, h]
  simp [Trace.calls, hq, List.countP_replicate]

lemma Service.queries_closing (s : Service) (took : Duration) (attempt : Attempt) (label : Nat) :
    Trace.queries label (s.closing took attempt) = [] :=
  filterMap_closing (fun _ => rfl) (fun _ => rfl) took

/-- A gate of known make, over a store that is given in some way. -/
inductive Part (σ : Type) where
  | userExists (store : σ)
  | passwordMatch (store : σ)
  | roleRoute (router : Router)
  | rule (name : String) (requires : List String) (terminates : Bool) (rule : Attempt → Decision)

namespace Part
variable {σ τ : Type}

def map (f : σ → τ) : Part σ → Part τ
  | userExists store => .userExists (f store)
  | passwordMatch store => .passwordMatch (f store)
  | roleRoute router => .roleRoute router
  | rule name requires terminates decide => .rule name requires terminates decide

def gate : Part Store → Gate
  | userExists store => .userExists store
  | passwordMatch store => .passwordMatch store
  | roleRoute router => .roleRoute router
  | rule name requires terminates decide => .ofRule name requires terminates decide

/-- The store that it asks. -/
def store? : Part σ → Option σ
  | userExists store => some store
  | passwordMatch store => some store
  | _ => none

/-- Does it ask its store questions of this kind? -/
def asks (kind : QueryKind) : Part σ → Bool
  | userExists _ => kind = .userExists
  | passwordMatch _ => kind = .verifyPassword
  | _ => false

/-- A gate that asks a question asks it once. -/
lemma calls_check (part : Part Store) (attempt : Attempt) (label : Nat) (kind : QueryKind) :
    Trace.calls label kind (part.gate.check attempt).trace =
      if part.asks kind then (part.store?.map (·.reached.count label)).getD 0 else 0 := by
  cases part with
  | userExists store =>
    simp [gate, Store.calls_ask, asks, store?, Query.kind, eq_comm]
  | passwordMatch store =>
    simp [gate, Store.calls_ask, asks, store?, Query.kind, eq_comm]
  | roleRoute router => rfl
  | rule name requires terminates decide => rfl

/-- A store that each question reaches once has one on record for each gate that asks it. -/
lemma calls_doings {parts : List (Part Store)} {label : Nat}
    (h : ∀ part ∈ parts, ∀ store ∈ part.store?, store.reached.count label = 1) (attempt : Attempt)
    (kind : QueryKind) :
    Trace.calls label kind (Pipeline.doings attempt (parts.map gate)) =
      parts.countP (asks kind) := by
  induction parts with
  | nil => rfl
  | cons part parts ih =>
    obtain ⟨hp,hr⟩ := List.forall_mem_cons.mp h
    have hc : Trace.calls label kind (part.gate.check attempt).trace =
        if part.asks kind then 1 else 0 := by
      rw [calls_check]
      cases part with
      | userExists store => simp [store?, hp store rfl]
      | passwordMatch store => simp [store?, hp store rfl]
      | roleRoute router => rfl
      | rule name requires terminates decide => rfl
    rw [List.map_cons, Pipeline.doings_cons, Trace.calls_append, hc, ih hr, List.countP_cons]
    omega

end Part

end Turnstile
