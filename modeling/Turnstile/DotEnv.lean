import Turnstile.Environment
import Turnstile.Text.Alphanumeric
import Turnstile.Text.Blank

/-! Files of variables: one on a line, with quotes and escapes as in a shell. -/
namespace Turnstile.DotEnv

/-- Where the end of a line was met: between words, or inside something that goes on. -/
inductive LineState where
  | complete
  | blank
  | escape
  | single
  | singleEscape
  | double
  | doubleEscape
  deriving DecidableEq, Repr

/-- Reads a character of a line that is no comment. -/
def LineState.next (state : LineState) (c : Char) : LineState :=
  let open? : LineState :=
    if c = '\\' then .escape
    else if c = '"' then .double
    else if c = '\'' then .single
    else .complete
  match state with
  | blank => open?
  | escape => .complete
  | complete => if Text.isBlank c && c ≠ '\n' && c ≠ '\r' then .blank else open?
  | double => if c = '\\' then .doubleEscape else if c = '"' then .complete else .double
  | doubleEscape => .double
  | single => if c = '\\' then .singleEscape else if c = '\'' then .complete else .single
  | singleEscape => .single

/-- Reads a line up to a comment, which begins after a blank: what stands before it, and where its end
was met if there is no comment. -/
def scanLine (state : LineState) : List Char → List Char × Option LineState
  | [] => ([], some state)
  | c :: r =>
    if state = .blank && c = '#' then ([], none)
    else
      let (before, ending) := scanLine (state.next c) r
      (c :: before, ending)

/-- The lines of a text, each with the line feed at its end. -/
def rawLines [DecidableEq α] (feed : α) : List α → List (List α)
  | [] => []
  | c :: r =>
    if c = feed then [c] :: rawLines feed r
    else
      match rawLines feed r with
      | [] => [[c]]
      | line :: lines => (c :: line) :: lines

/-- The lines of a file. -/
def textLines (content : String) : List (Option (List Char)) :=
  (rawLines '\n' content.toList).map some

/-- The lines of a file that is no UTF-8. Those that are to blame are missing. -/
def byteLines (content : List UInt8) : List (Option (List Char)) :=
  (rawLines 10 content).map fun line => (String.fromUTF8? ⟨line.toArray⟩).map String.toList

/-- Without the line end at the end. -/
def chomp (cs : List Char) : List Char :=
  match cs.reverse with
  | '\n' :: '\r' :: r => r.reverse
  | '\n' :: r => r.reverse
  | _ => cs

/-- The lines of a file, joined where quotes are open, a line feed is escaped or only one blank stands
before it. They end with a missing line, or where the file ends inside a line. -/
def joinLines (state : LineState) (open? : List Char) :
    List (Option (List Char)) → List (Option (List Char))
  | [] => if state = .complete then [] else [none]
  | none :: _ => [none]
  | some line :: rest =>
    if (Text.trimFront (open? ++ line)).head? = some '#' then joinLines .complete [] rest
    else
      match scanLine state line with
      | (before, none) => some (open? ++ before) :: joinLines .complete [] rest
      | (_, some .complete) => some (chomp (open? ++ line)) :: joinLines .complete [] rest
      | (_, some state) => joinLines state (open? ++ line) rest

/-- Variables, and those that earlier lines of the file set, the latest first. -/
structure Scope where
  env : Environment
  earlier : List (String × String)

/-- The value of a variable: of the environment, else of an earlier line, else nothing. -/
def Scope.value (scope : Scope) (name : List Char) : List Char :=
  let name := String.ofList name
  let value := (scope.env.after? name).or (scope.earlier.lookup name)
  (value.getD "").toList

/-- Inside what a character of a value stands. -/
inductive ValueState where
  | bare
  | bareEscape
  | single
  | double
  | doubleEscape
  /-- In a name after a dollar sign. -/
  | name (quoted : Bool) (letters : List Char)
  /-- In a name in braces. -/
  | braced (quoted : Bool) (letters : List Char)
  /-- After a blank: only blanks and a comment may follow. -/
  | ended
  /-- In a comment. -/
  | comment
  deriving DecidableEq, Repr

/-- The state outside of names and escapes. -/
def ValueState.plain (quoted : Bool) : ValueState := if quoted then .double else .bare

/-- The character that an escape stands for. -/
def escaped? (c : Char) : Option Char :=
  if c = 'n' then some '\n'
  else if c = '\\' || c = '\'' || c = '"' || c = '$' || c = ' ' then some c
  else none

/-- Reads a character of a value: what it adds to the value, and the state after it. The character that
ends a name after a dollar sign stands for itself, whatever it is. -/
def readChar (scope : Scope) (state : ValueState) (c : Char) : Option (List Char × ValueState) :=
  match state with
  | .ended =>
    if c = ' ' || c = '\t' then some ([], .ended) else if c = '#' then some ([], .comment) else none
  | .comment => some ([], .comment)
  | .bareEscape => (escaped? c).map fun e => ([e], .bare)
  | .doubleEscape => (escaped? c).map fun e => ([e], .double)
  | .single => if c = '\'' then some ([], .bare) else some ([c], .single)
  | .name quoted letters =>
    if Text.isAlphanumeric c then some ([], .name quoted (letters ++ [c]))
    else if c = '\x7b' && letters.isEmpty then some ([], .braced quoted [])
    else
      let value := scope.value letters
      if c = '$' then some (value, .name quoted []) else some (value ++ [c], .plain quoted)
  | .braced quoted letters =>
    if c = '\x7d' then some (scope.value letters, .plain quoted)
    else some ([], .braced quoted (letters ++ [c]))
  | .double =>
    if c = '$' then some ([], .name true [])
    else if c = '"' then some ([], .bare)
    else if c = '\\' then some ([], .doubleEscape)
    else some ([c], .double)
  | .bare =>
    if c = '$' then some ([], .name false [])
    else if c = '\'' then some ([], .single)
    else if c = '"' then some ([], .double)
    else if c = '\\' then some ([], .bareEscape)
    else if c = ' ' || c = '\t' then some ([], .ended)
    else some ([c], .bare)

/-- What the end adds to a value; nothing if something is still open. -/
def endValue (scope : Scope) : ValueState → Option (List Char)
  | .name false letters => some (scope.value letters)
  | .bare => some []
  | .bareEscape => some []
  | .ended => some []
  | .comment => some []
  | _ => none

/-- Reads a value. -/
def readValue (scope : Scope) (state : ValueState) : List Char → Option (List Char)
  | [] => endValue scope state
  | c :: r => do
    let (added, state) ← readChar scope state c
    let rest ← readValue scope state r
    some (added ++ rest)

def isKeyStart (c : Char) : Bool := c.isAlpha || c = '_'

def isKeyChar (c : Char) : Bool := c.isAlphanum || c = '_' || c = '.'

/-- Reads the name of a variable and the blanks after it. -/
def readKey (cs : List Char) : Option (String × List Char) :=
  match cs with
  | [] => none
  | c :: _ =>
    if isKeyStart c then
      some (String.ofList (cs.takeWhile isKeyChar), Text.trimFront (cs.dropWhile isKeyChar))
    else none

/-- Reads the equals sign and the blanks after it. -/
def readEquals : List Char → Option (List Char)
  | '=' :: r => some (Text.trimFront r)
  | _ => none

/-- Reads a name and an equals sign. The word `export` may stand before the name, or be one. -/
def readName (cs : List Char) : Option (String × List Char) := do
  let (key, rest) ← readKey cs
  match readEquals rest with
  | some rest => some (key, rest)
  | none =>
    if key = "export" then do
      let (key, rest) ← readKey rest
      let rest ← readEquals rest
      some (key, rest)
    else none

/-- Reads a line, if it says anything. -/
def readLine (scope : Scope) (line : List Char) : Option (Option (String × String)) :=
  match Text.trim line with
  | [] => some none
  | '#' :: _ => some none
  | cs => do
    let (name, rest) ← readName cs
    match rest with
    | [] => some (some (name, ""))
    | '#' :: _ => some (some (name, ""))
    | rest => do
      let value ← readValue scope .bare rest
      some (some (name, String.ofList value))

/-- What is wrong with a file of variables. -/
inductive Fault where
  /-- A line makes no sense. -/
  | malformed
  /-- A value holds the null character, which no variable can. -/
  | nullCharacter
  deriving DecidableEq, Repr

/-- The variables with this one, unless it is set already. -/
def set (env : Environment) (name value : String) : Except Fault Environment :=
  if (env.get? name).isNone && value.toList.contains '\x00' then .error .nullCharacter
  else .ok (env.setDefault name value)

/-- Sets the variables of the lines, unless they are set already. -/
def setLines (scope : Scope) : List (Option (List Char)) → Except Fault Environment
  | [] => .ok scope.env
  | none :: _ => .error .malformed
  | some line :: rest =>
    match readLine scope line with
    | none => .error .malformed
    | some none => setLines scope rest
    | some (some (name, value)) => do
      let env ← set scope.env name value
      setLines ⟨env, (name, value) :: scope.earlier⟩ rest

/-- Without the byte order mark at the front. -/
def skipMark : List (Option (List Char)) → List (Option (List Char))
  | some ('\ufeff' :: line) :: rest => some line :: rest
  | lines => lines

/-- Sets the variables of the lines of a file, unless they are set already. -/
def apply (lines : List (Option (List Char))) (env : Environment) : Except Fault Environment :=
  setLines ⟨env, []⟩ (joinLines .complete [] (skipMark lines))

end Turnstile.DotEnv
