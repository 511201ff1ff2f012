/-! Sets of characters, as data. Classes and case are known of ASCII only. -/
namespace Turnstile

inductive CharSet where
  | empty
  /-- Both ends are in it. -/
  | range (first last : Char)
  | union (s t : CharSet)
  | common (s t : CharSet)
  | without (s t : CharSet)
  | complement (s : CharSet)
  /-- With the letters A to Z and a to z that differ from its own in case only. -/
  | anyCase (s : CharSet)
  deriving DecidableEq, Repr

namespace CharSet

def contains : CharSet → Char → Bool
  | empty, _ => false
  | range first last, c => first ≤ c && c ≤ last
  | union s t, c => s.contains c || t.contains c
  | common s t, c => s.contains c && t.contains c
  | without s t, c => s.contains c && !t.contains c
  | complement s, c => !s.contains c
  | anyCase s, c => s.contains c || s.contains c.toLower || s.contains c.toUpper

def single (c : Char) : CharSet := range c c

/-- What is in any of the sets. -/
def unionOf (sets : List CharSet) : CharSet := sets.foldr union empty

def ofList (cs : List Char) : CharSet := unionOf (cs.map single)

/-- What is in one of them only. -/
def either (s t : CharSet) : CharSet := union (without s t) (without t s)

def all : CharSet := complement empty

def ascii : CharSet := range '\x00' '\x7f'

/-- The characters of Latin 1. The first half of them is ASCII. -/
def latin : CharSet := range '\x00' '\xff'

/-- Has nothing of the second half of Latin 1. -/
def isAscii (s : CharSet) : Bool :=
  (List.range 0x80).all fun n => !s.contains (Char.ofNat (0x80 + n))

def upper : CharSet := range 'A' 'Z'
def lower : CharSet := range 'a' 'z'
def digit : CharSet := range '0' '9'
def alpha : CharSet := union upper lower
def alphanumeric : CharSet := union alpha digit
def word : CharSet := union alphanumeric (single '_')
def space : CharSet := union (range '\t' '\r') (single ' ')
def graph : CharSet := range '!' '~'

/-- The named sets of ASCII. -/
def named : String → Option CharSet
  | "alnum" => some alphanumeric
  | "alpha" => some alpha
  | "ascii" => some ascii
  | "blank" => some (ofList [' ', '\t'])
  | "cntrl" => some (union (range '\x00' '\x1f') (single '\x7f'))
  | "digit" => some digit
  | "graph" => some graph
  | "lower" => some lower
  | "print" => some (range ' ' '~')
  | "punct" => some (without graph alphanumeric)
  | "space" => some space
  | "upper" => some upper
  | "word" => some word
  | "xdigit" => some (union digit (union (range 'A' 'F') (range 'a' 'f')))
  | _ => none

end CharSet

end Turnstile
