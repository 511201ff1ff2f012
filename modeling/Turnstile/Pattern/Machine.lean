import Turnstile.Pattern.Basic

/-! Patterns as machines. The states of a machine are numbered; those of a part of the pattern lie next
to each other, its first state at the front. -/
namespace Turnstile

/-- What a state does. -/
inductive Move where
  /-- Takes a character of a set. -/
  | take (s : CharSet) (next : Nat)
  | ask (kind : Boundary) (next : Nat)
  /-- Goes on with the first state, or else with the second. -/
  | fork (first second : Nat)
  | finish
  deriving DecidableEq, Repr

namespace Pattern

/-- The number of states of a pattern. -/
def size : Pattern → Nat
  | empty => 1
  | one _ => 1
  | boundary _ => 1
  | sequence first second => first.size + second.size
  | choice first second => first.size + second.size + 1
  | optional _ inner => inner.size + 1
  | plus _ inner => inner.size + 1
  | star _ inner => inner.size + 1

/-- Goes into a repetition, if that is preferred, or on. -/
def enterOrLeave (eager : Bool) (inside next : Nat) : Move :=
  if eager then .fork inside next else .fork next inside

/-- The moves of a pattern with its first state at `start`. It goes on at `next`. -/
def moves : Pattern → (start next : Nat) → List Move
  | empty, _, next => [.fork next next]
  | one s, _, next => [.take s next]
  | boundary kind, _, next => [.ask kind next]
  | sequence first second, start, next =>
    first.moves start (start + first.size) ++ second.moves (start + first.size) next
  | choice first second, start, next =>
    let other := start + 1 + first.size
    .fork (start + 1) other :: first.moves (start + 1) next ++ second.moves other next
  | optional eager inner, start, next =>
    enterOrLeave eager (start + 1) next :: inner.moves (start + 1) next
  | plus eager inner, start, next =>
    let last := start + inner.size
    inner.moves start last ++ [enterOrLeave eager start next]
  | star eager inner, start, next =>
    enterOrLeave eager (start + 1) next :: inner.moves (start + 1) start

/-- The machine of a pattern. It begins with the first state and finishes with the last. -/
def machine (pattern : Pattern) : Array Move :=
  (pattern.moves 0 pattern.size ++ [Move.finish]).toArray

end Pattern

end Turnstile
