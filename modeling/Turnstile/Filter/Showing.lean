import Turnstile.Filter.Directive
import Turnstile.Log
import Turnstile.Pattern.Matching
import Turnstile.Pattern.Reading

/-! What a log filter shows. General directives decide by where a line comes from; others mark spans,
and what happens in a marked span is shown in the detail of the mark. -/
namespace Turnstile

/-- A text matches a written pattern. -/
def Pattern.fits (source text : String) : Bool :=
  match Pattern.read source with
  | .ok pattern => pattern.accepts text
  | .error _ => false

/-- Accepts the value of a field. -/
def Wanted.accepts (wanted : Wanted) (value : Node) : Bool :=
  match wanted, value with
  | .truth b, .boolean c => b = c
  | .count n, .integer m => m = n
  | .negative n, .integer m => m < 0 && m = n
  | .pattern source, .text t => Pattern.fits source t
  | _, _ => false

namespace Directive

/-- Applies to this target. -/
def coversTarget (d : Directive) (target : String) : Bool :=
  match d.scope.target with
  | none => true
  | some front => (Text.after? front.toList target.toList).isSome

/-- Depends on nothing but where a line comes from and which fields it has. -/
def isGeneral (d : Directive) : Bool :=
  d.scope.span.isNone && d.scope.field.all (·.value.isNone)

/-- Marks the spans that it applies to, so that it also decides about what happens in them. -/
def isMarking (d : Directive) : Bool := d.scope.span.isSome || d.scope.field.isSome

/-- A general directive applies to this event. -/
def coversEvent (d : Directive) (event : Log.Event) : Bool :=
  d.isGeneral && d.coversTarget event.target &&
    d.scope.field.all fun test => event.fieldNames.contains test.name

/-- A general directive applies to this span. Its field does not count. -/
def coversSpan (d : Directive) (span : Log.Span) : Bool := d.isGeneral && d.coversTarget span.target

/-- Marks this span, if its fields have the right values. -/
def mayMark (d : Directive) (span : Log.Span) : Bool :=
  d.isMarking && d.coversTarget span.target && d.scope.span.all (· = span.name) &&
    d.scope.field.all fun test => span.fields.any (·.1 = test.name)

/-- The field of a span has the right value. -/
def admits (d : Directive) (span : Log.Span) : Bool :=
  d.scope.field.all fun test =>
    test.value.all fun wanted =>
      span.fields.any fun (name, value) => name = test.name && wanted.accepts value

/-- The number that grows with the length of the target, and is least without one. -/
def specificity (d : Directive) : Nat :=
  match d.scope.target with
  | none => 0
  | some front => front.toList.length + 1

/-- Goes before another: by a longer target, or by a field, or by the later name of its field. -/
def outranks (d e : Directive) : Bool :=
  if d.specificity = e.specificity then
    match d.scope.field, e.scope.field with
    | some test, some other => other.name < test.name
    | some _, none => true
    | none, _ => false
  else e.specificity < d.specificity

end Directive

namespace Filter

/-- Of directives with one scope the last. -/
def latest : List Directive → List Directive
  | [] => []
  | d :: rest => if rest.any (·.scope = d.scope) then latest rest else d :: latest rest

/-- The directive that goes before all others. -/
def foremost : List Directive → Option Directive
  | [] => none
  | d :: rest =>
    match foremost rest with
    | none => some d
    | some e => some (if d.outranks e then d else e)

/-- The most detail that general directives show, of which only those count that apply. A filter
without directives shows errors only. -/
def generalDetail (filter : Filter) (applies : Directive → Bool) : Nat :=
  if filter.directives.isEmpty then 1
  else
    match foremost ((latest filter.directives).filter applies) with
    | some d => d.detail
    | none => 0

/-- The most detail that is shown in a span because it is marked. -/
def detailIn (filter : Filter) (span : Log.Span) : Nat :=
  let marks := (latest filter.directives).filter fun d => d.mayMark span && d.admits span
  (marks.map (·.detail)).foldl max 0

/-- The most detail that a span may have. If values are asked of fields, every span has to be looked
at. -/
def spanLimit (filter : Filter) : Nat :=
  if filter.directives.any fun d => d.scope.field.any (·.value.isSome) then everything
  else if filter.directives.isEmpty then 1
  else (filter.directives.map (·.detail)).foldl max 0

/-- Shows a span, where spans around it show so much detail. One that may be marked is shown whatever
its level. -/
def showsSpan (filter : Filter) (around : Nat) (span : Log.Span) : Bool :=
  span.level.detail ≤ filter.spanLimit &&
    (filter.directives.any (·.mayMark span) || span.level.detail ≤ around ||
      span.level.detail ≤ filter.generalDetail (·.coversSpan span))

/-- Shows an event, where the spans around it show so much detail. -/
def showsEvent (filter : Filter) (around : Nat) (event : Log.Event) : Bool :=
  event.level.detail ≤ around || event.level.detail ≤ filter.generalDetail (·.coversEvent event)

end Filter

end Turnstile
