import Turnstile.Document.JsonText
import Turnstile.Filter.Showing

/-! What a filter leaves of a log, and the lines that are written of it. -/
namespace Turnstile

namespace Log

/-- A span as part of a line. -/
def Span.toNode (span : Span) : Node := .tableOf (("name", .text span.name) :: span.fields)

/-- The spans that a filter shows, from the outermost, where those around them show so much detail; and
the detail that is shown inside all of them. -/
def shownSpans (filter : Filter) (around : Nat) : List Span → List Span × Nat
  | [] => ([], around)
  | span :: inner =>
    if filter.showsSpan around span then
      let (spans, detail) := shownSpans filter (max around (filter.detailIn span)) inner
      (span :: spans, detail)
    else shownSpans filter around inner

/-- The entry without the spans that a filter hides; nothing if it hides the event. -/
def Entry.shown (filter : Filter) (entry : Entry) : Option Entry :=
  let (spans, detail) := shownSpans filter 0 entry.spans
  if filter.showsEvent detail entry.event then some ⟨spans, entry.event⟩ else none

/-- An entry as a line: the event, the innermost span, and all spans. -/
def Entry.toNode (entry : Entry) : Node :=
  let spans := match entry.spans.getLast? with
    | none => []
    | some inner =>
      [("span", inner.toNode), ("spans", Node.listOf (entry.spans.map Span.toNode))]
  .tableOf ([("level", .text entry.event.level.name),
    ("fields", .tableOf (("message", .text entry.event.message) :: entry.event.fields)),
    ("target", .text entry.event.target)] ++ spans)

/-- What is written of a log: a JSON object a line, or texts for people to read. -/
inductive Lines where
  | json (lines : List Node)
  | pretty (texts : List String)

/-- A value in a text for people to read. -/
def plainValue : Node → String
  | .text value => value
  | node => node.toJson

/-- An entry as a text for people to read. -/
def Entry.toText (entry : Entry) : String :=
  let event := entry.event
  let fields := event.fields.map fun (name, value) => ", " ++ name ++ ": " ++ plainValue value
  let places := entry.spans.reverse.map fun span =>
    "\n    in " ++ span.target ++ "::" ++ span.name ++ " with " ++
      ", ".intercalate (span.fields.map fun (name, value) => name ++ ": " ++ plainValue value)
  "  " ++ event.level.name ++ " " ++ event.target ++ ": " ++ event.message ++ String.join fields ++
    String.join places ++ "\n"

/-- The spans that a filter shows of those that entries happen in, each once. -/
def spansOf (filter : Filter) (entries : List Entry) : List Span :=
  (entries.flatMap fun entry => (shownSpans filter 0 entry.spans).1).eraseDups

/-- A span that was shown, as a text for people to read. -/
def Span.toText (span : Span) : String :=
  "  " ++ span.level.name ++ " " ++ span.target ++ "::" ++ span.name ++ ": close\n"

/-- What is written of entries. For people, the spans have lines of their own. -/
def write (jsonFormat : Bool) (filter : Filter) (entries : List Entry) : Lines :=
  let shown := entries.filterMap (·.shown filter)
  if jsonFormat then .json (shown.map Entry.toNode)
  else .pretty (shown.map Entry.toText ++ (spansOf filter entries).map Span.toText)

/-- Nothing at all. -/
def silent : Lines := .json []

end Log

end Turnstile
