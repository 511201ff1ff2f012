import Turnstile.Pattern.Machine

/-! What it is for a text to match a pattern. A pattern is looked for from the front of a text on. What
is found first, and there the way that is preferred, has to end with the text. -/
namespace Turnstile

/-- A place in a text: the characters on both sides of it. -/
structure Spot where
  before : Option Char
  after : Option Char
  deriving DecidableEq, Repr

/-- Holds at a place. -/
def Boundary.holds (kind : Boundary) (spot : Spot) : Bool :=
  let before := spot.before.any CharSet.word.contains
  let after := spot.after.any CharSet.word.contains
  match kind with
  | textStart => spot.before.isNone
  | textEnd => spot.after.isNone
  | lineStart => spot.before.all (· = '\n')
  | lineEnd => spot.after.all (· = '\n')
  | returnStart =>
    spot.before.all fun c => c = '\n' || (c = '\r' && spot.after ≠ some '\n')
  | returnEnd =>
    spot.after.all fun c => c = '\r' || (c = '\n' && spot.before ≠ some '\r')
  | wordEdge => before != after
  | noWordEdge => before == after
  | wordStart => !before && after
  | wordEnd => before && !after
  | scriptEdge => false

/-- The states that a machine can be in at a place: a mark for each of them, and the order in which they
were reached, the latest first. -/
structure Visit where
  marks : Array Bool
  order : List Nat
  deriving DecidableEq, Repr

/-- Where a machine that looks for its pattern can be: the states that wait for a character, by
preference, and whether the pattern is still tried at further places. -/
structure Search where
  states : List Nat
  onwards : Bool
  deriving DecidableEq, Repr

namespace Search

/-- The states that are reached from one without a character, with those before. A state that was
reached already stays where it is, so that a repetition of nothing ends. -/
def reach (machine : Array Move) (spot : Spot) : (limit : Nat) → Visit → Nat → Visit
  | 0, visit, _ => visit
  | n + 1, visit, state =>
    if visit.marks.getD state true then visit
    else
      let visit : Visit := ⟨visit.marks.setIfInBounds state true, state :: visit.order⟩
      match machine[state]? with
      | some (.ask kind next) => if kind.holds spot then reach machine spot n visit next else visit
      | some (.fork first second) =>
        reach machine spot n (reach machine spot n visit first) second
      | _ => visit

/-- The states that are reached from some, by preference. On the way down every state is met once: the
limit is not met. -/
def reachAll (machine : Array Move) (spot : Spot) (states : List Nat) : List Nat :=
  let visit := states.foldl (reach machine spot (machine.size + 1))
    ⟨Array.replicate machine.size false, []⟩
  visit.order.reverse

/-- At a place, with the pattern tried there as well; and whether something is found that ends there.
What is less preferred than that does not count any more. -/
def arrive (machine : Array Move) (spot : Spot) (search : Search) : Search × Bool :=
  let fresh := if search.onwards then [0] else []
  let reached := reachAll machine spot (search.states ++ fresh)
  let found := reached.contains (machine.size - 1)
  (⟨reached.takeWhile (· ≠ machine.size - 1), search.onwards && !found⟩, found)

/-- The state after a character, if that is taken. -/
def take? (machine : Array Move) (c : Char) (state : Nat) : Option Nat :=
  match machine[state]? with
  | some (.take s next) => if s.contains c then some next else none
  | _ => none

/-- Over a character. The pattern is also tried between its bytes, if it has several: no word has an
edge there, and nothing but the empty text can be found. -/
def pass (machine : Array Move) (c : Char) (search : Search) : Search :=
  let inside := c.utf8Size > 1 && (arrive machine ⟨some c, some c⟩ ⟨[], search.onwards⟩).2
  ⟨search.states.filterMap (take? machine c), search.onwards && !inside⟩

/-- What is found in the rest of a text ends with it. -/
def endsWith (machine : Array Move) (before : Option Char) (search : Search) : List Char → Bool
  | [] => (search.arrive machine ⟨before, none⟩).2
  | c :: rest =>
    endsWith machine (some c) ((search.arrive machine ⟨before, some c⟩).1.pass machine c) rest

end Search

/-- What is found first in a text, by the preferred way, ends with the text. -/
def Pattern.accepts (pattern : Pattern) (text : String) : Bool :=
  Search.endsWith pattern.machine none ⟨[], true⟩ text.toList

end Turnstile
