import Turnstile.Text.Quoted

/-! What can go wrong with a pipeline or a store. A rejected login is not among it: that is a decision.
Each failure is a cause; its wording is in `message`, and `causes` lists what lies behind it, the
nearest first. -/
namespace Turnstile

/-- A pipeline put together in an order that cannot work. -/
inductive Misuse where
  | missingPrerequisite (gate : String) (position : Nat) (requires : String)
  | unreachableGate (gate : String) (position : Nat) (terminator : String)
  deriving DecidableEq, Repr

/-- The kinds of trouble the system reports. -/
inductive SystemTrouble where
  | notFound
  | permissionDenied
  | connectionRefused
  | timedOut
  | unexpectedEnd
  | other
  deriving DecidableEq, Repr

/-- An error of the system, with a message of its own or only a kind. -/
structure SystemError where
  trouble : SystemTrouble
  note : Option String
  deriving DecidableEq, Repr

/-- What a backend reports behind its error. -/
inductive BackendCause where
  | text (message : String)
  | system (error : SystemError)
  deriving DecidableEq, Repr

/-- Why a credential store gives no answer. -/
inductive StoreError where
  | unavailable (note : String)
  | backend (note : String) (cause : BackendCause)
  | system (error : SystemError)
  deriving DecidableEq, Repr

/-- Why a login or an evaluation gives no answer. -/
inductive Failure where
  | misuse (misuse : Misuse)
  | store (error : StoreError)
  deriving DecidableEq, Repr

namespace Misuse

/-- The gate in the wrong place. -/
def gate : Misuse → String
  | missingPrerequisite gate _ _ => gate
  | unreachableGate gate _ _ => gate

def message : Misuse → String
  | missingPrerequisite gate position requires =>
    "gate `" ++ gate ++ "` at position " ++ toString position ++ " requires `" ++ requires ++
      "` to run before it"
  | unreachableGate gate position terminator =>
    "gate `" ++ gate ++ "` at position " ++ toString position ++ " can never run: `" ++ terminator ++
      "` always ends evaluation"

def inspect : Misuse → String
  | missingPrerequisite gate position requires =>
    Text.record "MissingPrerequisite" [("gate", Text.quoted gate), ("position", toString position),
      ("requires", Text.quoted requires)]
  | unreachableGate gate position terminator =>
    Text.record "UnreachableGate" [("gate", Text.quoted gate), ("position", toString position),
      ("terminator", Text.quoted terminator)]

end Misuse

def SystemTrouble.message : SystemTrouble → String
  | notFound => "entity not found"
  | permissionDenied => "permission denied"
  | connectionRefused => "connection refused"
  | timedOut => "timed out"
  | unexpectedEnd => "unexpected end of file"
  | other => "other error"

def SystemError.message (error : SystemError) : String := error.note.getD error.trouble.message

def BackendCause.message : BackendCause → String
  | text message => message
  | system error => error.message

namespace StoreError

def message : StoreError → String
  | unavailable note => "store unavailable: " ++ note
  | backend note _ => "store backend error: " ++ note
  | system error => "IO error: " ++ error.message

def causes : StoreError → List String
  | unavailable _ => []
  | backend _ cause => [cause.message]
  | system error => [error.message]

/-- Worth another try: the store could not be reached, rather than refused the query. -/
def isRetryable : StoreError → Bool
  | backend _ _ => false
  | _ => true

end StoreError

namespace Failure

def message : Failure → String
  | misuse m => "pipeline misuse: " ++ m.message
  | store e => "credential store failure: " ++ e.message

def causes : Failure → List String
  | misuse m => [m.message]
  | store e => e.message :: e.causes

def isMisuse : Failure → Bool
  | misuse _ => true
  | store _ => false

def isStoreFailure : Failure → Bool
  | misuse _ => false
  | store _ => true

def isRetryable : Failure → Bool
  | misuse _ => false
  | store e => e.isRetryable

end Failure

end Turnstile
