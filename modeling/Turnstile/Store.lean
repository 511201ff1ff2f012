import Turnstile.Failure
import Turnstile.Users

/-! Credential stores: what answers the two questions that gates ask. A store's answer is a function
of the question; who was asked what is told by the trace of a run, in which a store is known by its
label. -/
namespace Turnstile

/-- A question to a store. -/
inductive Query where
  | userExists (identity : String)
  | verifyPassword (identity secret : String)
  deriving DecidableEq, Repr

/-- The two kinds of questions. -/
inductive QueryKind where
  | userExists
  | verifyPassword
  deriving DecidableEq, Repr

def Query.kind : Query → QueryKind
  | userExists _ => .userExists
  | verifyPassword _ _ => .verifyPassword

/-- A credential store. `inside` are the labels of the stores that a question is passed on to, from
the outside in. -/
structure Store where
  label : Nat
  inside : List Nat
  answer : Query → Except StoreError Bool

namespace Store

/-- The labels of all stores that a question reaches. -/
def reached (store : Store) : List Nat := store.label :: store.inside

/-- A store of known users. A secret matches only if it is the same text. -/
def inMemory (label : Nat) (users : Users) : Store where
  label := label
  inside := []
  answer
    | .userExists identity => .ok (users.contains identity)
    | .verifyPassword identity secret => .ok (users.secret? identity == some secret)

/-- A store that is down. -/
def failing (label : Nat) (note : String) : Store where
  label := label
  inside := []
  answer _ := .error (.unavailable note)

/-- What a store that is down says unless told otherwise. -/
def offlineNote : String := "credential store offline"

/-- A store with one answer to each kind of question. -/
def scripted (label : Nat) (exists? verify? : Except StoreError Bool) : Store where
  label := label
  inside := []
  answer
    | .userExists _ => exists?
    | .verifyPassword _ _ => verify?

/-- A store that passes every question on, so that it is counted under its own label too. -/
def counting (label : Nat) (inner : Store) : Store where
  label := label
  inside := inner.reached
  answer := inner.answer

/-- How diagnostics show a store that is down. -/
def inspectFailing (note : String) : String :=
  Text.record "FailingCredentialStore" [("message", Text.quoted note)]

end Store

end Turnstile
