import Turnstile.Text.Blank

/-! The variables that a process is given. -/
namespace Turnstile

/-- Variables and their values. A variable should be there once; of several values a lookup finds the
first, and whoever goes through all variables is left with the last. -/
structure Environment where
  entries : List (String × String)
  deriving DecidableEq, Repr

namespace Environment

def empty : Environment := ⟨[]⟩

def get? (env : Environment) (name : String) : Option String := env.entries.lookup name

/-- What follows a name and an equals sign in one of the texts `name=value` that a process is given. A
name with an equals sign of its own finds the end of a value. -/
def after? (env : Environment) (name : String) : Option String :=
  env.entries.findSome? fun (n, value) =>
    (Text.after? (name ++ "=").toList (n ++ "=" ++ value).toList).map String.ofList

/-- With this variable, unless it is set already, if only to nothing. -/
def setDefault (env : Environment) (name value : String) : Environment :=
  match env.get? name with
  | some _ => env
  | none => ⟨env.entries ++ [(name, value)]⟩

/-- Without the pairs whose name comes again. -/
def latest : List (String × String) → List (String × String)
  | [] => []
  | (name, value) :: rest =>
    if (rest.lookup name).isSome then latest rest else (name, value) :: latest rest

/-- The variables, each with the last of its values. -/
def settings (env : Environment) : List (String × String) := latest env.entries

/-- The variables in the order of their names. -/
def sorted (env : Environment) : List (String × String) :=
  env.settings.mergeSort fun a b => a.1 ≤ b.1

end Environment

end Turnstile
