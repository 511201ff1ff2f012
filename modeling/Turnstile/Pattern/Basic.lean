import Turnstile.Pattern.CharSet

/-! Patterns of texts. Where a pattern can go on in two ways, one of them is preferred. -/
namespace Turnstile

/-- What a pattern can ask of a place. -/
inductive Boundary where
  | textStart
  | textEnd
  | lineStart
  | lineEnd
  /-- The same where carriage returns end lines too, alone or before a line feed. -/
  | returnStart
  | returnEnd
  /-- Between a character of an ASCII word and something else. -/
  | wordEdge
  | noWordEdge
  | wordStart
  | wordEnd
  /-- Something about the words of any script. It can be written, but not searched for. -/
  | scriptEdge
  deriving DecidableEq, Repr

/-- A pattern. `eager` ones prefer more text, the others less. -/
inductive Pattern where
  /-- No text at all. -/
  | empty
  /-- One character of a set. -/
  | one (s : CharSet)
  | boundary (kind : Boundary)
  /-- One after the other. -/
  | sequence (first second : Pattern)
  /-- The first, or else the second. -/
  | choice (first second : Pattern)
  | optional (eager : Bool) (inner : Pattern)
  /-- Once and then again, any number of times. -/
  | plus (eager : Bool) (inner : Pattern)
  /-- Any number of times. The inner pattern takes some text each time. -/
  | star (eager : Bool) (inner : Pattern)
  deriving DecidableEq, Repr

namespace Pattern

/-- Can match the empty text. Boundaries count as if they held. -/
def canBeEmpty : Pattern → Bool
  | empty => true
  | one _ => false
  | boundary _ => true
  | sequence first second => first.canBeEmpty && second.canBeEmpty
  | choice first second => first.canBeEmpty || second.canBeEmpty
  | optional _ _ => true
  | plus _ inner => inner.canBeEmpty
  | star _ _ => true

/-- Any number of times. What can be empty is optional as a whole, so that a first time that is empty
counts by its own preference. -/
def anyNumber (eager : Bool) (inner : Pattern) : Pattern :=
  if inner.canBeEmpty then optional eager (plus eager inner) else star eager inner

/-- Asks this of a place somewhere. -/
def asks (kind : Boundary) : Pattern → Bool
  | empty => false
  | one _ => false
  | boundary k => k = kind
  | sequence first second => first.asks kind || second.asks kind
  | choice first second => first.asks kind || second.asks kind
  | optional _ inner => inner.asks kind
  | plus _ inner => inner.asks kind
  | star _ inner => inner.asks kind

/-- The patterns one after the other. -/
def sequenceOf : List Pattern → Pattern
  | [] => empty
  | [p] => p
  | p :: ps => sequence p (sequenceOf ps)

/-- The first of the patterns, or else one of the others in their order. -/
def choiceOf : List Pattern → Pattern
  | [] => empty
  | [p] => p
  | p :: ps => choice p (choiceOf ps)

end Pattern

end Turnstile
