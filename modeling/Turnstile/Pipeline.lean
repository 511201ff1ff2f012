import Turnstile.Gate

/-! Pipelines: gates in a fixed order, asked one after another until one settles the attempt or fails.
An order that cannot work is refused when the pipeline is frozen. -/
namespace Turnstile

/-- Gates in the order in which they are asked. -/
structure Pipeline where
  gates : List Gate

/-- What became of an attempt: the decision, the gate that made it if it is final, and how many gates
were run. -/
structure Evaluation where
  decision : Decision
  decidedBy : Option String
  gatesRun : Nat
  deriving DecidableEq, Repr

/-- How diagnostics show an evaluation. -/
def Evaluation.inspect (e : Evaluation) : String :=
  Text.record "Evaluation" [("decision", e.decision.inspect),
    ("decided_by", Text.optional (e.decidedBy.map Text.quoted)),
    ("gates_run", toString e.gatesRun)]

namespace Pipeline

def names (p : Pipeline) : List String := p.gates.map (·.name)

def count (p : Pipeline) : Nat := p.gates.length

def isEmpty (p : Pipeline) : Bool := p.gates.isEmpty

def inspect (p : Pipeline) : String :=
  Text.record "GatePipeline" [("gates", Text.listed (p.names.map Text.quoted))]

/-- Asks the gates from `position` on, inside the given spans. -/
def runFrom (spans : List Log.Span) (attempt : Attempt) :
    (position : Nat) → List Gate → Traced (Except Failure Evaluation)
  | position, [] => .plain (.ok ⟨.proceed, none, position⟩)
  | position, gate :: rest =>
    (gate.check attempt).bind fun
      | .error failure =>
        ⟨.error failure, [.log ⟨spans, .gateFailed gate.name position failure⟩]⟩
      | .ok decision =>
        let decided : Effect := .log ⟨spans, .gateDecided gate.name position decision⟩
        if decision.isFinal then ⟨.ok ⟨decision, some gate.name, position + 1⟩, [decided]⟩
        else (runFrom spans attempt (position + 1) rest).preceded [decided]

/-- Asks the gates in order. `around` are the spans that the evaluation happens in. -/
def evaluate (p : Pipeline) (around : List Log.Span) (attempt : Attempt) :
    Traced (Except Failure Evaluation) :=
  runFrom (around ++ [.evaluation attempt.identity p.count]) attempt 0 p.gates

/-- Asks the gates in order, for the decision only. -/
def decide (p : Pipeline) (around : List Log.Span) (attempt : Attempt) :
    Traced (Except Failure Decision) :=
  (p.evaluate around attempt).map fun result => result.map (·.decision)

end Pipeline

/-- What is wrong with a gate after these others: one of them ends every evaluation, or one that it
requires is not among them. -/
def Gate.misplaced? (earlier : List Gate) (gate : Gate) : Option Misuse :=
  match earlier.find? (·.terminates) with
  | some last => some (.unreachableGate gate.name earlier.length last.name)
  | none =>
    (gate.requires.find? fun required => !earlier.any (·.name = required)).map
      (.missingPrerequisite gate.name earlier.length)

/-- What is wrong with the first misplaced of these gates, when they follow the earlier ones. -/
def firstMisplaced? (earlier : List Gate) : List Gate → Option Misuse
  | [] => none
  | gate :: rest => (gate.misplaced? earlier).or (firstMisplaced? (earlier ++ [gate]) rest)

/-- A pipeline under construction. -/
structure PipelineDraft where
  gates : List Gate

namespace PipelineDraft

def empty : PipelineDraft := ⟨[]⟩

/-- With one more gate at the end. -/
def append (draft : PipelineDraft) (gate : Gate) : PipelineDraft := ⟨draft.gates ++ [gate]⟩

def size (draft : PipelineDraft) : Nat := draft.gates.length

def isEmpty (draft : PipelineDraft) : Bool := draft.gates.isEmpty

/-- The pipeline as it stands, whatever its order. -/
def freezeUnchecked (draft : PipelineDraft) : Pipeline := ⟨draft.gates⟩

/-- The pipeline, if no gate is misplaced. -/
def freeze (draft : PipelineDraft) : Except Misuse Pipeline :=
  match firstMisplaced? [] draft.gates with
  | some misuse => .error misuse
  | none => .ok draft.freezeUnchecked

end PipelineDraft

end Turnstile
