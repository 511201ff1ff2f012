import Turnstile.Text.Quoted

/-! What a gate decides about an attempt, and what a login comes to. -/
namespace Turnstile

/-- Why an attempt is turned away. -/
inductive Reason where
  | unknownUser
  | badPassword
  deriving DecidableEq, Repr, Inhabited

/-- Where a granted login leads. -/
inductive Route where
  | admin
  | standard
  deriving DecidableEq, Repr

instance : Inhabited Route := ⟨.standard⟩

/-- The answer of one gate: the next gate decides, or the matter is settled either way. -/
inductive Decision where
  | proceed
  | reject (reason : Reason)
  | terminate (route : Route)
  deriving DecidableEq, Repr, Inhabited

/-- The result of a login, for the one who asked. -/
inductive Outcome where
  | granted (route : Route)
  | denied (reason : Reason)
  deriving DecidableEq, Repr

namespace Reason

/-- The name in documents, logs and metrics. -/
def code : Reason → String
  | unknownUser => "unknown_user"
  | badPassword => "bad_password"

def all : List Reason := [unknownUser, badPassword]

def inspect : Reason → String
  | unknownUser => "UnknownUser"
  | badPassword => "BadPassword"

end Reason

namespace Route

/-- The name in documents, logs and metrics. -/
def name : Route → String
  | admin => "admin"
  | standard => "standard"

def all : List Route := [admin, standard]

def inspect : Route → String
  | admin => "Admin"
  | standard => "Standard"

end Route

namespace Decision

/-- No later gate is asked. -/
def isFinal : Decision → Bool
  | proceed => false
  | _ => true

def isReject : Decision → Bool
  | reject _ => true
  | _ => false

/-- The name in documents, logs and metrics. -/
def label : Decision → String
  | proceed => "continue"
  | reject _ => "reject"
  | terminate _ => "terminate"

def inspect : Decision → String
  | proceed => "Continue"
  | reject reason => Text.variant "Reject" reason.inspect
  | terminate route => Text.variant "Terminate" route.inspect

end Decision

namespace Outcome

/-- What a decision means for the caller. An attempt that no gate settles is granted, with the
default route. -/
def ofDecision (default : Route) : Decision → Outcome
  | .proceed => granted default
  | .terminate route => granted route
  | .reject reason => denied reason

def isGranted : Outcome → Bool
  | granted _ => true
  | denied _ => false

def route? : Outcome → Option Route
  | granted route => some route
  | denied _ => none

def reason? : Outcome → Option Reason
  | granted _ => none
  | denied reason => some reason

/-- The name in documents, logs and metrics. -/
def label : Outcome → String
  | granted _ => "granted"
  | denied _ => "denied"

def inspect : Outcome → String
  | granted route => Text.record "Granted" [("route", route.inspect)]
  | denied reason => Text.record "Denied" [("reason", reason.inspect)]

end Outcome

end Turnstile
