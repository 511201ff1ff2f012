import Turnstile.Filter.Directive
import Turnstile.Pattern.Reading
import Turnstile.Text.Alphanumeric

/-! How log filters are written: directives with commas between them, each a target, a span with a field
in brackets, and a level after an equals sign. -/
namespace Turnstile

/-- What is wrong with a filter. -/
inductive FilterError where
  | directive
  | level
  /-- The value of a field is no pattern. -/
  | pattern (error : PatternError)
  /-- A cut went through the middle of a character. -/
  | splitCharacter
  deriving DecidableEq, Repr

def FilterError.message : FilterError → String
  | directive => "invalid filter directive"
  | level => "error parsing level filter: expected one of \"off\", \"error\", \"warn\", \"info\", " ++
      "\"debug\", \"trace\", or a number 0-5"
  | pattern error => "invalid field filter: " ++ error.message
  | splitCharacter => "byte index is not a char boundary"

namespace Filter

/-- The names of the levels, by detail. -/
def levelNames : List (String × Nat) :=
  [("off", 0), ("error", 1), ("warn", 2), ("info", 3), ("debug", 4), ("trace", 5)]

/-- The number that a text is, with or without a plus sign. -/
def number? (cs : List Char) : Option Nat :=
  let ds := match cs with
    | '+' :: r => r
    | cs => cs
  if !ds.isEmpty && ds.all Text.isDigit then some (Text.decimal ds) else none

/-- The detail that a text names, by number or by name. No text at all names the most. -/
def detail? (cs : List Char) : Option Nat :=
  if cs.isEmpty then some everything
  else
    ((number? cs).filter (· ≤ everything)).or
      ((levelNames.find? fun (name, _) => Text.readsAs (String.ofList cs) name).map (·.2))

/-- Without a sign at the front. -/
def unsigned : List Char → List Char
  | '+' :: r => r
  | '-' :: r => r
  | cs => cs

/-- Digits, perhaps with a point before, among or after them, and perhaps an exponent. -/
def isDecimal (cs : List Char) : Bool :=
  let whole := cs.takeWhile Text.isDigit
  let (parts, rest) := match cs.dropWhile Text.isDigit with
    | '.' :: r => (r.takeWhile Text.isDigit, r.dropWhile Text.isDigit)
    | r => ([], r)
  !(whole.isEmpty && parts.isEmpty) &&
    match rest with
    | [] => true
    | e :: r =>
      let digits := unsigned r
      (e = 'e' || e = 'E') && !digits.isEmpty && digits.all Text.isDigit

/-- A number that may have parts, or be infinite or none. -/
def isNumeral (cs : List Char) : Bool :=
  let digits := unsigned cs
  isDecimal digits || ["inf", "infinity", "nan"].any (Text.readsAs (String.ofList digits))

/-- The number that a text with a minus sign is. -/
def negative? : List Char → Option Int
  | '-' :: ds =>
    if !ds.isEmpty && ds.all Text.isDigit && Text.decimal ds ≤ Nat.pow 2 63 then
      some (-Text.decimal ds)
    else none
  | _ => none

/-- Reads a value that is asked of a field. -/
def readWanted (s : String) : Except FilterError Wanted :=
  let cs := s.toList
  if s = "true" then .ok (.truth true)
  else if s = "false" then .ok (.truth false)
  else
    match (number? cs).filter (· < Nat.pow 2 64), negative? cs with
    | some n, _ => .ok (.count n)
    | none, some n => .ok (.negative n)
    | none, none =>
      if isNumeral cs then .ok (.numeral s)
      else
        match Pattern.read s with
        | .ok _ => .ok (.pattern s)
        | .error e => .error (.pattern e)

/-- Reads what is asked of a field: a name, and a value after an equals sign. What follows another
equals sign does not count. -/
def readField (s : String) : Except FilterError FieldTest :=
  match Text.pieces '=' s.toList with
  | name :: value :: _ => (readWanted (String.ofList value)).map (⟨String.ofList name, some ·⟩)
  | _ => .ok ⟨s, none⟩

/-- How far a directive was read. -/
inductive Progress where
  | start
  | target
  /-- In brackets, from this byte on. -/
  | span (start : Nat)
  /-- In braces, from this byte on. -/
  | field (start : Nat)
  | fields
  | after
  /-- In the level, from this byte on. -/
  | level (start : Nat)
  deriving DecidableEq, Repr

/-- What was found of the scope of a directive, and how far it was read. -/
structure Reading where
  scope : Scope
  progress : Progress

/-- A part of the text, by its bytes. -/
def cut (text : List Char) (i j : Nat) : Except FilterError String :=
  match Text.byteSlice i j text with
  | some part => .ok (String.ofList part)
  | none => .error .splitCharacter

/-- Reads the character at byte `i`. The characters are those of the text without the blanks around it,
but the parts are cut out of the text as it is, so that blanks at its front shift all cuts. -/
def step (text : List Char) (r : Reading) (i : Nat) (c : Char) : Except FilterError Reading :=
  match r.progress with
  | .start =>
    if c = '[' then .ok ⟨r.scope, .span (i + 1)⟩
    else if c = '-' || c = ':' || c = '_' || Text.isAlphanumeric c then .ok ⟨r.scope, .target⟩
    else .error .directive
  | .target =>
    if c = '=' then do
      let target ← cut text 0 i
      .ok ⟨{ r.scope with target := some target }, .level (i + 1)⟩
    else if c = '[' then do
      let target ← cut text 0 i
      .ok ⟨{ r.scope with target := some target }, .span (i + 1)⟩
    else .ok r
  | .span start =>
    if c = ']' then do
      let span ← cut text start i
      .ok ⟨{ r.scope with span := some span }, .after⟩
    else if c = '\x7b' then do
      let span ← cut text start i
      .ok ⟨{ r.scope with span := if span.isEmpty then none else some span }, .field (i + 1)⟩
    else .ok r
  | .field start =>
    if c = '\x7d' then do
      let written ← cut text start i
      if written.isEmpty then .error .directive
      else do
        let field ← readField written
        .ok ⟨{ r.scope with field := some field }, .fields⟩
    else .ok r
  | .fields => if c = ']' then .ok ⟨r.scope, .after⟩ else .error .directive
  | .after => if c = '=' then .ok ⟨r.scope, .level (i + 1)⟩ else .error .directive
  | .level _ => .ok r

/-- Reads characters, the first of them at byte `i`. -/
def steps (text : List Char) : Reading → (i : Nat) → List Char → Except FilterError Reading
  | r, _, [] => .ok r
  | r, i, c :: rest => do
    let r ← step text r i c
    steps text r (i + c.utf8Size) rest

/-- What a directive is when its text ends. Without a level everything is shown, and a level alone
applies to every target. -/
def finish (text : List Char) (r : Reading) : Except FilterError Directive :=
  match r.progress with
  | .target =>
    match detail? text with
    | some detail => .ok ⟨detail, { r.scope with target := none }⟩
    | none => .ok ⟨everything, { r.scope with target := some (String.ofList text) }⟩
  | .level start =>
    match Text.dropBytes start text with
    | none => .error .splitCharacter
    | some rest =>
      match detail? rest with
      | some detail => .ok ⟨detail, r.scope⟩
      | none => .error .level
  | .after => .ok ⟨everything, r.scope⟩
  | _ => .error .directive

/-- Reads one directive. -/
def readDirective (text : List Char) : Except FilterError Directive := do
  let r ← steps text ⟨⟨none, none, none⟩, .start⟩ 0 (Text.trim text)
  finish text r

/-- Reads the directives between commas. -/
def readParts : List (List Char) → Except FilterError (List Directive)
  | [] => .ok []
  | part :: rest =>
    if part.isEmpty then readParts rest
    else do
      let directive ← readDirective part
      let directives ← readParts rest
      .ok (directive :: directives)

/-- Reads a filter. -/
def read (s : String) : Except FilterError Filter := do
  let directives ← readParts (Text.pieces ',' s.toList)
  .ok ⟨directives⟩

end Filter

end Turnstile
