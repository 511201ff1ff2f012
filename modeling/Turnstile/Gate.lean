import Turnstile.Attempt
import Turnstile.Trace

/-! Gates: the checks that a login attempt passes one after another. -/
namespace Turnstile

/-- A gate. Its `requires` and `terminates` say where in a pipeline it may stand; `check` is what it
does. Not every gate has an appearance in diagnostics. -/
structure Gate where
  name : String
  requires : List String
  terminates : Bool
  check : Attempt → Traced (Except Failure Decision)
  appearance : Option String

/-- The gates that every service has. -/
inductive GateKind where
  | userExists
  | passwordMatch
  | roleRoute
  deriving DecidableEq, Repr

namespace GateKind

def name : GateKind → String
  | userExists => "user_exists"
  | passwordMatch => "password_match"
  | roleRoute => "role_route"

/-- A secret is only checked once the identity is known. -/
def requires : GateKind → List String
  | passwordMatch => [userExists.name]
  | _ => []

def terminates : GateKind → Bool
  | roleRoute => true
  | _ => false

/-- The place in the canonical order. -/
def number : GateKind → Nat
  | userExists => 1
  | passwordMatch => 2
  | roleRoute => 3

def all : List GateKind := [userExists, passwordMatch, roleRoute]

def inspect : GateKind → String
  | userExists => "UserExists"
  | passwordMatch => "PasswordMatch"
  | roleRoute => "RoleRoute"

/-- The kind with this name. -/
def ofName? (name : String) : Option GateKind := all.find? (·.name = name)

end GateKind

/-- Proceeds on a yes of the store and rejects on a no. -/
def Decision.ofReply (reason : Reason) : Except StoreError Bool → Except Failure Decision
  | .ok true => .ok .proceed
  | .ok false => .ok (.reject reason)
  | .error e => .error (.store e)

/-- Which identities are led to the administration, all others taking the standard route. -/
structure Router where
  privileged : List String
  deriving DecidableEq, Repr

namespace Router

/-- The identity that is privileged unless told otherwise. -/
def default : Router := ⟨["admin"]⟩

def isPrivileged (router : Router) (identity : String) : Bool := router.privileged.contains identity

def routeFor (router : Router) (identity : String) : Route :=
  if router.isPrivileged identity then .admin else .standard

/-- Privileges the same identities, however often and in whatever order they are listed. -/
def agrees (a b : Router) : Bool :=
  a.privileged.all b.isPrivileged && b.privileged.all a.isPrivileged

/-- How diagnostics show a router. The order of several identities is not fixed, so only lists of at
most one have an appearance. -/
def appearance (router : Router) : Option String :=
  if router.privileged.length ≤ 1 then
    some (Text.record "RoleRouteGate"
      [("privileged", Text.braced (router.privileged.map Text.quoted))])
  else none

end Router

namespace Gate

/-- Turns away identities that the store does not know. -/
def userExists (store : Store) : Gate where
  name := GateKind.userExists.name
  requires := GateKind.userExists.requires
  terminates := GateKind.userExists.terminates
  check attempt :=
    (store.ask (.userExists attempt.identity)).map (Decision.ofReply .unknownUser)
  appearance := some (Text.partialRecord "UserExistsGate" [])

/-- Turns away secrets that are not the identity's. -/
def passwordMatch (store : Store) : Gate where
  name := GateKind.passwordMatch.name
  requires := GateKind.passwordMatch.requires
  terminates := GateKind.passwordMatch.terminates
  check attempt :=
    (store.ask (.verifyPassword attempt.identity attempt.secret)).map (Decision.ofReply .badPassword)
  appearance := some (Text.partialRecord "PasswordMatchGate" [])

/-- Settles every attempt with the route of its identity. -/
def roleRoute (router : Router) : Gate where
  name := GateKind.roleRoute.name
  requires := GateKind.roleRoute.requires
  terminates := GateKind.roleRoute.terminates
  check attempt := .plain (.ok (.terminate (router.routeFor attempt.identity)))
  appearance := router.appearance

/-- A gate that decides by a rule of its own. -/
def ofRule (name : String) (requires : List String) (terminates : Bool)
    (rule : Attempt → Decision) : Gate where
  name := name
  requires := requires
  terminates := terminates
  check attempt := .plain (.ok (rule attempt))
  appearance := some (Text.partialRecord "FnGate" [("name", Text.quoted name),
    ("requires", Text.listed (requires.map Text.quoted)), ("terminates", Text.truth terminates)])

/-- A gate of which only the name and the answer are known. -/
def bare (name : String) (answer : Except Failure Decision) : Gate where
  name := name
  requires := []
  terminates := false
  check _ := .plain answer
  appearance := none

/-- The same gate with every run on record. -/
def watched (gate : Gate) : Gate where
  name := gate.name
  requires := gate.requires
  terminates := gate.terminates
  check attempt := (gate.check attempt).preceded [.visit gate.name]
  appearance := gate.appearance

end Gate

end Turnstile
