import Turnstile.Config.Sections
import Turnstile.Pipeline

/-! The login service: a pipeline and the route of an attempt that it does not settle. A login is logged
and measured. -/
namespace Turnstile

/-- A pipeline and a default route. -/
structure Service where
  pipeline : Pipeline
  defaultRoute : Route

namespace Service

/-- A service over a pipeline, with the standard route. -/
def ofPipeline (p : Pipeline) : Service := ⟨p, .standard⟩

/-- The canonical gates over a store, in their canonical order, which needs no check. -/
def standard (store : Store) (router : Router) : Service :=
  ofPipeline ((((PipelineDraft.empty.append (.userExists store)).append
    (.passwordMatch store)).append (.roleRoute router)).freezeUnchecked)

def withDefaultRoute (s : Service) (route : Route) : Service := { s with defaultRoute := route }

/-- The service that a configuration describes. Its store has this label. -/
def ofConfig (label : Nat) (c : Config) : Service :=
  (standard (c.credentials.store label) ⟨c.routing.privileged⟩).withDefaultRoute
    c.routing.defaultRoute

/-- The decisions of the gates that were run, told from their names and the evaluation alone: all but
the deciding gate let the attempt pass. -/
def gateMeasurements (names : List String) (e : Evaluation) : List Measurement :=
  let ran := names.take e.gatesRun
  let passed := if e.decidedBy.isSome then ran.dropLast else ran
  passed.map (.gate · Decision.proceed.label) ++
    (e.decidedBy.map (Measurement.gate · e.decision.label)).toList

/-- What is reported of a completed login. -/
def effects (spans : List Log.Span) (names : List String) (e : Evaluation) (outcome : Outcome)
    (took : Duration) : List Effect :=
  (gateMeasurements names e).map .measure ++
    [.measure (.login outcome.label (outcome.reason?.map Reason.code) took),
     .log ⟨spans, .loginEvaluated outcome e.decidedBy e.gatesRun⟩]

/-- Decides about an attempt. A failure of the evaluation is passed on. -/
def login (s : Service) (took : Duration) (attempt : Attempt) :
    Traced (Except Failure Outcome) :=
  let spans : List Log.Span := [.login attempt.identity]
  (s.pipeline.evaluate spans attempt).bind fun
    | .error failure => ⟨.error failure, [.log ⟨spans, .loginFailed failure⟩]⟩
    | .ok e =>
      let outcome := Outcome.ofDecision s.defaultRoute e.decision
      ⟨.ok outcome, effects spans s.pipeline.names e outcome took⟩

def inspect (s : Service) : String :=
  Text.record "LoginService"
    [("pipeline", s.pipeline.inspect), ("default_route", s.defaultRoute.inspect)]

end Service

end Turnstile
