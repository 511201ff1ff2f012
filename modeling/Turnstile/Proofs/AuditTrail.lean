import Turnstile.Proofs.LoginRun

/-! What the log tells of a login. Each gate that was asked has one line, which stands at the position of
the gate, and the service adds the last line. Gates may log on their own account: whatever they do stands
right before the line about their answer. -/
namespace Turnstile

namespace Log

/-- What a reader of the log sees of an event. -/
structure Line where
  level : Level
  message : String
  fields : List (String × Node)

def Event.line (event : Event) : Line := ⟨event.level, event.message, event.fields⟩

namespace Line

/-- A gate returned a decision. -/
def decided (gate : String) (position : Nat) (decision : Decision) : Line where
  level := .debug
  message := "gate decided"
  fields := [("gate", .text gate), ("position", .integer position),
    ("decision", .text decision.label)]

/-- A gate failed. -/
def failed (gate : String) (position : Nat) (failure : Failure) : Line where
  level := .warn
  message := "gate failed"
  fields := [("gate", .text gate), ("position", .integer position),
    ("error", .text failure.message)]

/-- A login ended with the failure of a gate. -/
def abandoned (failure : Failure) : Line where
  level := .warn
  message := "Login evaluation failed"
  fields := [("error", .text failure.message), ("retryable", .boolean failure.isRetryable)]

/-- The line tells of a login that came to this outcome, and nothing else. A field without a value is left
out. -/
structure Concludes (line : Line) (outcome : Outcome) (decidedBy : Option String) (gatesRun : Nat) :
    Prop where
  rank : line.level = .info
  wording : line.message = "Login evaluated"
  names : (line.fields.map (·.1)).Sublist ["outcome", "route", "reason", "decided_by", "gates_run"]
  result : line.fields.lookup "outcome" = some (.text outcome.label)
  way : line.fields.lookup "route" = outcome.route?.map fun route => .text route.name
  ground : line.fields.lookup "reason" = outcome.reason?.map fun reason => .text reason.code
  decider : line.fields.lookup "decided_by" = decidedBy.map .text
  count : line.fields.lookup "gates_run" = some (.integer gatesRun)

end Line

lemma Event.concludes_line (outcome : Outcome) (decidedBy : Option String) (gatesRun : Nat) :
    (loginEvaluated outcome decidedBy gatesRun).line.Concludes outcome decidedBy gatesRun := by
  have hn : ((loginEvaluated outcome decidedBy gatesRun).line.fields.map (·.1)).Sublist
      ["outcome", "route", "reason", "decided_by", "gates_run"] := by
    cases outcome <;> cases decidedBy <;>
      simp [line, fields, optionalField, Outcome.route?, Outcome.reason?]
  cases outcome <;> cases decidedBy <;> exact ⟨rfl,rfl,hn,rfl,rfl,rfl,rfl,rfl⟩

end Log

namespace Trace

/-- The lines of the log that a trace writes. -/
def lines (trace : List Effect) : List Log.Line := (events trace).map Log.Event.line

@[simp] lemma lines_append (before after : List Effect) :
    lines (before ++ after) = lines before ++ lines after := by
  simp [lines]

@[simp] lemma lines_log (entry : Log.Entry) : lines [.log entry] = [entry.event.line] := rfl

end Trace

namespace Pipeline
variable {spans : List Log.Span} {attempt : Attempt}

/-- The lines about gates that let the attempt pass, when the first stands at this position. -/
def passedLines (attempt : Attempt) (position : Nat) (gates : List Gate) : List Log.Line :=
  (gates.zipIdx position).flatMap fun (gate, i) =>
    Trace.lines (gate.check attempt).trace ++ [.decided gate.name i .proceed]

lemma lines_footprint (gate : Gate) (n : Nat) :
    Trace.lines (gate.footprint spans attempt n) =
      Trace.lines (gate.check attempt).trace ++
        [(gate.report n (gate.check attempt).answer).line] := by
  rw [Gate.footprint, Trace.lines_append, Trace.lines_log]

lemma lines_trail_of_passes {gates : List Gate} (h : ∀ g ∈ gates, g.Passes attempt) (n : Nat) :
    Trace.lines (trail spans attempt n gates) = passedLines attempt n gates := by
  induction gates generalizing n with
  | nil => rfl
  | cons gate gates ih =>
    obtain ⟨hp,hg⟩ := List.forall_mem_cons.mp h
    have ha : (gate.check attempt).answer = .ok .proceed := hp
    have hl : (gate.report n (gate.check attempt).answer).line =
        .decided gate.name n .proceed := by
      rw [ha]
      rfl
    rw [trail_cons, Trace.lines_append, lines_footprint, hl, ih hg]
    simp [passedLines]

/-- The last gate that is asked has its line too, whatever it answers. -/
lemma lines_trail_of_stop {before : List Gate} (hb : ∀ g ∈ before, g.Passes attempt) (gate : Gate) :
    Trace.lines (trail spans attempt 0 (before ++ [gate])) =
      passedLines attempt 0 before ++ Trace.lines (gate.check attempt).trace ++
        [(gate.report before.length (gate.check attempt).answer).line] := by
  rw [trail_append, Trace.lines_append, lines_trail_of_passes hb, trail_cons, trail_nil,
    List.append_nil, lines_footprint, Nat.zero_add, List.append_assoc]

end Pipeline

namespace Service

lemma lines_effects (spans : List Log.Span) (names : List String) (e : Evaluation)
    (outcome : Outcome) (took : Duration) :
    Trace.lines (effects spans names e outcome took) =
      [(Log.Event.loginEvaluated outcome e.decidedBy e.gatesRun).line] := by
  simp [Trace.lines, Trace.events, Trace.entries, effects, List.filterMap_map]

end Service

end Turnstile
