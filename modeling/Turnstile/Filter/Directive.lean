/-! Log filters: directives, of which each names the level down to which a target is logged, or what
happens inside a span. -/
namespace Turnstile

/-- A value that is asked of a field. -/
inductive Wanted where
  | truth (value : Bool)
  /-- A number that a count can be. -/
  | count (value : Nat)
  | negative (value : Int)
  /-- Any other numeral. No field has such a number. -/
  | numeral (written : String)
  /-- Any text that matches the pattern. -/
  | pattern (source : String)
  deriving DecidableEq, Repr

/-- What is asked of a field: that it is there, and perhaps a value. -/
structure FieldTest where
  name : String
  value : Option Wanted
  deriving DecidableEq, Repr

/-- What a directive applies to. -/
structure Scope where
  /-- The targets that begin so; without it, all of them. -/
  target : Option String
  /-- The spans of this name, and what happens in them. -/
  span : Option String
  field : Option FieldTest
  deriving DecidableEq, Repr

/-- One directive. -/
structure Directive where
  /-- The most detail that is shown: `0` for nothing, otherwise the rank of a level. -/
  detail : Nat
  scope : Scope
  deriving DecidableEq, Repr

/-- Directives in the order in which they were written. -/
structure Filter where
  directives : List Directive
  deriving DecidableEq, Repr

/-- The detail that goes with everything logged at any level. -/
def Filter.everything : Nat := 5

end Turnstile
