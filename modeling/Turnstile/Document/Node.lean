/-! A document as a tree of values, whatever text it was written in. Fields keep their order and their
repetitions, so that what a reader objects to is found in the order in which it was written.

A text that breaks off or makes no sense is read as far as it goes: the tree then holds the fault at the
place where it was met, and nothing after it. -/
namespace Turnstile

/-- What is wrong with a text. -/
inductive Fault where
  /-- It ends too early. -/
  | cutShort
  /-- It breaks a rule of the format. -/
  | malformed
  deriving DecidableEq, Repr, Inhabited

/-- What stands in the place of a value that cannot be read. -/
inductive Remnant where
  /-- No value begins here. -/
  | missing
  /-- A number, or one of the words `null`, `true` and `false`. -/
  | word
  /-- A text in quotes. -/
  | text
  deriving DecidableEq, Repr

/-- The name of a field, or the fault met in its place. -/
inductive Key where
  | named (name : String)
  /-- `used` is the fault for one who needs the name. One who skips it meets `skipped`, or nothing. -/
  | faulty (used : Fault) (skipped : Option Fault)
  deriving DecidableEq, Repr

/-- A value of a document. -/
inductive Node where
  | null
  | boolean (value : Bool)
  | integer (value : Int)
  | real (value : Float)
  | text (value : String)
  /-- A date, a time, or both, in their standard form. -/
  | moment (written : String)
  /-- `ending` is the fault that stands in the place of the closing bracket. -/
  | list (items : List Node) (ending : Option Fault)
  /-- A list of tables of which each has a header of its own. -/
  | series (tables : List Node)
  /-- `ending` is the fault that stands in the place of the closing bracket. -/
  | table (entries : List (Key × Node)) (ending : Option Fault)
  /-- `used` is the fault for one who needs the value. One who skips it meets `skipped`, or nothing:
  an unpaired surrogate or a number out of range is no value, but nothing is wrong with its form. -/
  | faulty (remnant : Remnant) (used : Fault) (skipped : Option Fault)
  deriving Repr, Inhabited

/-- A tree and what follows it in the text: anything but blanks is a fault. -/
structure Document where
  root : Node
  trailing : Option Fault
  deriving Repr

namespace Node

/-- A complete list. -/
def listOf (items : List Node) : Node := .list items none

/-- A complete table. -/
def tableOf (entries : List (String × Node)) : Node :=
  .table (entries.map fun (name, value) => (.named name, value)) none

end Node

def Key.skip : Key → Option Fault
  | .named _ => none
  | .faulty _ skipped => skipped

/-- The fault for one who needs the name. -/
def Key.fault? : Key → Option Fault
  | .named _ => none
  | .faulty used _ => some used

/-- The first fault that one meets who passes over a value. -/
def Node.skip : Node → Option Fault
  | .list items ending => (skipItems items).or ending
  | .series tables => skipItems tables
  | .table entries ending => (skipEntries entries).or ending
  | .faulty _ _ skipped => skipped
  | _ => none
where
  skipItems : List Node → Option Fault
    | [] => none
    | item :: rest => item.skip.or (skipItems rest)
  skipEntries : List (Key × Node) → Option Fault
    | [] => none
    | (key, value) :: rest => (key.skip.or value.skip).or (skipEntries rest)

/-- The first fault that one meets who takes in a whole value before looking at it, when only so many
levels of lists and tables may still be opened. -/
def Node.takeIn (levels : Nat) : Node → Option Fault
  | .list items ending =>
    if levels = 0 then some .malformed else (takeInItems (levels - 1) items).or ending
  | .series tables => if levels = 0 then some .malformed else takeInItems (levels - 1) tables
  | .table entries ending =>
    if levels = 0 then some .malformed else (takeInEntries (levels - 1) entries).or ending
  | .faulty _ used _ => some used
  | _ => none
where
  takeInItems (levels : Nat) : List Node → Option Fault
    | [] => none
    | item :: rest => (item.takeIn levels).or (takeInItems levels rest)
  takeInEntries (levels : Nat) : List (Key × Node) → Option Fault
    | [] => none
    | (key, value) :: rest =>
      (key.fault?.or (value.takeIn levels)).or (takeInEntries levels rest)

end Turnstile
