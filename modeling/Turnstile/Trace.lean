import Turnstile.Log
import Turnstile.Store

/-! Runs with a trace: an answer together with all that was done on the way to it, in order. What stores
were asked, what was logged and what was measured is read off the trace, so nothing else has to be
remembered. -/
namespace Turnstile

/-- A span of time. -/
structure Duration where
  seconds : Nat
  nanoseconds : Nat
  deriving DecidableEq, Repr, Inhabited

/-- So many seconds and billionths of a second, of which any number of the latter makes seconds. -/
def Duration.of (seconds nanoseconds : Nat) : Duration :=
  ⟨seconds + nanoseconds / 1000000000, nanoseconds % 1000000000⟩

/-- A number reported to the metrics recorder. -/
inductive Measurement where
  /-- A login came to an end. A granted login has no reason. -/
  | login (outcome : String) (reason : Option String) (took : Duration)
  /-- A gate returned a decision. -/
  | gate (gate decision : String)
  deriving DecidableEq, Repr

/-- One thing that a run did. -/
inductive Effect where
  /-- The store with this label was asked. -/
  | query (store : Nat) (query : Query) (answer : Except StoreError Bool)
  /-- A watched gate was run. -/
  | visit (gate : String)
  | log (entry : Log.Entry)
  | measure (measurement : Measurement)

/-- An answer and the effects of finding it. -/
structure Traced (α : Type) where
  answer : α
  trace : List Effect

namespace Traced

/-- An answer that took nothing. -/
def plain (answer : α) : Traced α := ⟨answer, []⟩

/-- With these effects first. -/
def preceded (effects : List Effect) (run : Traced α) : Traced α :=
  ⟨run.answer, effects ++ run.trace⟩

/-- With these effects last. -/
def followed (run : Traced α) (effects : List Effect) : Traced α :=
  ⟨run.answer, run.trace ++ effects⟩

def map (f : α → β) (run : Traced α) : Traced β := ⟨f run.answer, run.trace⟩

/-- One run after another. -/
def bind (run : Traced α) (next : α → Traced β) : Traced β := (next run.answer).preceded run.trace

@[simp] theorem answer_plain (a : α) : (plain a).answer = a := rfl
@[simp] theorem trace_plain (a : α) : (plain a).trace = [] := rfl
@[simp] theorem answer_preceded (es : List Effect) (r : Traced α) :
    (r.preceded es).answer = r.answer := rfl
@[simp] theorem trace_preceded (es : List Effect) (r : Traced α) :
    (r.preceded es).trace = es ++ r.trace := rfl
@[simp] theorem answer_followed (r : Traced α) (es : List Effect) :
    (r.followed es).answer = r.answer := rfl
@[simp] theorem trace_followed (r : Traced α) (es : List Effect) :
    (r.followed es).trace = r.trace ++ es := rfl
@[simp] theorem answer_map (f : α → β) (r : Traced α) : (r.map f).answer = f r.answer := rfl
@[simp] theorem trace_map (f : α → β) (r : Traced α) : (r.map f).trace = r.trace := rfl
@[simp] theorem answer_bind (r : Traced α) (f : α → Traced β) :
    (r.bind f).answer = (f r.answer).answer := rfl
@[simp] theorem trace_bind (r : Traced α) (f : α → Traced β) :
    (r.bind f).trace = r.trace ++ (f r.answer).trace := rfl

end Traced

/-- Asks a store. The question is on record at every store that it reaches. -/
def Store.ask (store : Store) (query : Query) : Traced (Except StoreError Bool) :=
  let answer := store.answer query
  ⟨answer, store.reached.map fun label => .query label query answer⟩

namespace Trace

/-- The log entries of a trace. -/
def entries (trace : List Effect) : List Log.Entry :=
  trace.filterMap fun
    | .log entry => some entry
    | _ => none

/-- The logged events of a trace. -/
def events (trace : List Effect) : List Log.Event := (entries trace).map (·.event)

/-- The measurements of a trace. -/
def measurements (trace : List Effect) : List Measurement :=
  trace.filterMap fun
    | .measure measurement => some measurement
    | _ => none

/-- The watched gates that were run. -/
def visits (trace : List Effect) : List String :=
  trace.filterMap fun
    | .visit gate => some gate
    | _ => none

/-- The questions that the store with this label was asked. -/
def queries (label : Nat) (trace : List Effect) : List Query :=
  trace.filterMap fun
    | .query store query _ => if store = label then some query else none
    | _ => none

/-- How many questions of a kind the store with this label was asked. -/
def calls (label : Nat) (kind : QueryKind) (trace : List Effect) : Nat :=
  (queries label trace).countP (·.kind = kind)

end Trace

end Turnstile
