import Turnstile.Text.Quoted

/-! A login attempt: who asks to come in, and the secret offered. -/
namespace Turnstile

structure Attempt where
  identity : String
  secret : String
  deriving DecidableEq, Repr

/-- How diagnostics show an attempt: never with its secret. -/
def Attempt.inspect (attempt : Attempt) : String :=
  Text.record "LoginAttempt"
    [("identity", Text.quoted attempt.identity), ("secret", Text.quoted "<redacted>")]

end Turnstile
