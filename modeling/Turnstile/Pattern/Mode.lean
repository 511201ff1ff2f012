import Turnstile.Pattern.Basic
import Turnstile.Text.Blank

/-! How the characters of a written pattern are taken. The letters of a group change it. -/
namespace Turnstile.Pattern

/-- How characters are taken. -/
structure Mode where
  ignoresCase : Bool
  /-- A dot also stands for the ends of lines. -/
  dotAll : Bool
  /-- The beginning and the end are those of lines. -/
  byLine : Bool
  /-- Carriage returns end lines too. -/
  returns : Bool
  /-- Repetitions are not eager unless marked. -/
  swapsGreed : Bool
  /-- Blanks do not count, and a number sign opens a comment. -/
  spaced : Bool
  /-- Classes, words and case are those of ASCII. -/
  ascii : Bool
  deriving DecidableEq, Repr

namespace Mode

def default : Mode := ⟨false, false, false, false, false, false, false⟩

/-- Changed by a letter, which puts something on or off. -/
def changed? (mode : Mode) (letter : Char) (on : Bool) : Option Mode :=
  match letter with
  | 'i' => some { mode with ignoresCase := on }
  | 's' => some { mode with dotAll := on }
  | 'm' => some { mode with byLine := on }
  | 'R' => some { mode with returns := on }
  | 'U' => some { mode with swapsGreed := on }
  | 'x' => some { mode with spaced := on }
  | 'u' => some { mode with ascii := !on }
  | _ => none

/-- Characters can be told apart. No case is known but that of ASCII, so it cannot be ignored
elsewhere, not even for characters without case. -/
def tellsApart (mode : Mode) : Bool := !mode.ignoresCase || mode.ascii

/-- The set with the characters that differ from its own in case only, if that is ignored. -/
def closed (mode : Mode) (s : CharSet) : CharSet := if mode.ignoresCase then .anyCase s else s

/-- The complement. That of a set of ASCII is taken among single bytes. -/
def complement (mode : Mode) (s : CharSet) : CharSet :=
  if mode.ascii then .without .latin s else .complement s

/-- The set, unless it is one of single bytes that are no characters. -/
def checked (mode : Mode) (s : CharSet) : Option CharSet :=
  if mode.ascii && !s.isAscii then none else some s

/-- What a character stands for by itself. -/
def literal (mode : Mode) (c : Char) : Option Pattern :=
  if mode.tellsApart then some (.one (mode.closed (.single c))) else none

/-- What a dot stands for. -/
def dot (mode : Mode) : Option Pattern :=
  if mode.ascii then none
  else if mode.dotAll then some (.one .all)
  else some (.one (.complement (.ofList (if mode.returns then ['\r', '\n'] else ['\n']))))

/-- What is asked of a place at the beginning. -/
def beginning (mode : Mode) : Boundary :=
  if !mode.byLine then .textStart else if mode.returns then .returnStart else .lineStart

/-- What is asked of a place at the end. -/
def ending (mode : Mode) : Boundary :=
  if !mode.byLine then .textEnd else if mode.returns then .returnEnd else .lineEnd

/-- What is asked about words. -/
def aboutWords (mode : Mode) (kind : Boundary) : Boundary := if mode.ascii then kind else .scriptEdge

/-- The decimal digits, the blanks or the characters of words. Those of other scripts are not known. -/
def class? (mode : Mode) (letter : Char) : Option CharSet :=
  if mode.ascii then
    match letter with
    | 'd' => some .digit
    | 's' => some .space
    | 'w' => some .word
    | _ => none
  else none

/-- Without the blanks and comments that do not count. -/
def skip (mode : Mode) (cs : List Char) : List Char :=
  if mode.spaced then go (cs.length + 1) cs else cs
where
  go : (limit : Nat) → List Char → List Char
    | 0, cs => cs
    | n + 1, cs =>
      match Text.trimFront cs with
      | '#' :: r => go n (r.dropWhile (· ≠ '\n'))
      | r => r

end Mode

end Turnstile.Pattern
