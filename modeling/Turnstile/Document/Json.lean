import Turnstile.Document.JsonNumber
import Turnstile.Text.Blank

/-! The reader of JSON texts. It never refuses a text: what is wrong with one is found in the tree, at
the place where it was met. -/
namespace Turnstile.Json

/-- A part of a text in quotes: a character, or the code unit of a `\u` escape. -/
inductive TextUnit where
  | char (c : Char)
  | code (n : Nat)
  deriving Repr, DecidableEq

/-- Reads four hexadecimal digits, of any four bytes that are left. -/
def readCode (cs : List Char) : Except Fault (Nat × List Char) :=
  match cs with
  | a :: b :: c :: d :: r =>
    if [a, b, c, d].all Text.isHexDigit then .ok (Text.numeral 16 [a, b, c, d], r)
    else .error .malformed
  | _ => .error (if Text.byteLength cs < 4 then .cutShort else .malformed)

/-- The character that a short escape stands for. -/
def escaped? : Char → Option Char
  | '"' => some '"'
  | '\\' => some '\\'
  | '/' => some '/'
  | 'b' => some '\x08'
  | 'f' => some '\x0c'
  | 'n' => some '\n'
  | 'r' => some '\r'
  | 't' => some '\t'
  | _ => none

/-- The units of a text up to its closing quote, and what follows it; or up to a fault. -/
structure TextRead where
  units : List TextUnit
  rest : Except Fault (List Char)

/-- Reads the units of a text. Every one takes up a character, so the limit is not met if it is more
than the number of characters. -/
def readUnits : (limit : Nat) → List Char → TextRead
  | 0, _ => ⟨[], .error .cutShort⟩
  | _ + 1, [] => ⟨[], .error .cutShort⟩
  | n + 1, c :: r =>
    if c = '"' then ⟨[], .ok r⟩
    else if c.toNat < 0x20 then ⟨[], .error .malformed⟩
    else if c ≠ '\\' then onUnits (.char c) (readUnits n r)
    else
      match r with
      | [] => ⟨[], .error .cutShort⟩
      | 'u' :: r =>
        match readCode r with
        | .ok (code, r) => onUnits (.code code) (readUnits n r)
        | .error fault => ⟨[], .error fault⟩
      | e :: r =>
        match escaped? e with
        | some c => onUnits (.char c) (readUnits n r)
        | none => ⟨[], .error .malformed⟩
where
  onUnits (unit : TextUnit) (read : TextRead) : TextRead := ⟨unit :: read.units, read.rest⟩

def isLead (n : Nat) : Bool := 0xd800 ≤ n && n ≤ 0xdbff

def isTrail (n : Nat) : Bool := 0xdc00 ≤ n && n ≤ 0xdfff

/-- The characters that units stand for. Surrogates must come in pairs. The fault at the end is met only
after all units; but one that stands in the place of a second surrogate is met before the first is
found to be alone. -/
def joinUnits (ending : Option Fault) : List TextUnit → Except Fault (List Char)
  | [] => match ending with
    | none => .ok []
    | some fault => .error fault
  | .char c :: r => (joinUnits ending r).map (c :: ·)
  | [.code n] =>
    if isLead n then .error (ending.getD .malformed)
    else if isTrail n then .error .malformed
    else match ending with
      | none => .ok [Char.ofNat n]
      | some fault => .error fault
  | .code n :: .code m :: r =>
    if isLead n then
      if isTrail m then
        (joinUnits ending r).map (Char.ofNat ((n - 0xd800) * 0x400 + (m - 0xdc00) + 0x10000) :: ·)
      else .error .malformed
    else if isTrail n then .error .malformed
    else (joinUnits ending (.code m :: r)).map (Char.ofNat n :: ·)
  | .code n :: .char c :: r =>
    if isLead n || isTrail n then .error .malformed
    else (joinUnits ending (.char c :: r)).map (Char.ofNat n :: ·)

/-- Reads a text after its opening quote: its content for one who needs it, and what follows it or the
fault for one who passes over it. -/
def readText (limit : Nat) (cs : List Char) : Except Fault String × Except Fault (List Char) :=
  let read := readUnits limit cs
  let ending := match read.rest with
    | .ok _ => none
    | .error fault => some fault
  ((joinUnits ending read.units).map String.ofList, read.rest)

/-- Reads the rest of one of the three words. -/
def readWord (value : Node) : (word : List Char) → List Char → Node × Option (List Char)
  | [], cs => (value, some cs)
  | _ :: _, [] => (.faulty .word .cutShort (some .cutShort), none)
  | w :: ws, c :: cs =>
    if w = c then readWord value ws cs
    else (.faulty .word .malformed (some .malformed), none)

def isSpace (c : Char) : Bool := c = ' ' || c = '\n' || c = '\t' || c = '\r'

def skipSpace (cs : List Char) : List Char := cs.dropWhile isSpace

/-- What is wrong with a text that has something else here, or nothing more. -/
def faultAt (cs : List Char) : Fault := if cs.isEmpty then .cutShort else .malformed

/-- Stands for a value where none begins. -/
def missing (cs : List Char) : Node := .faulty .missing (faultAt cs) (some (faultAt cs))

/-- The name that was read, or its fault. -/
def keyOf : Except Fault String × Except Fault (List Char) → Key
  | (.ok name, _) => .named name
  | (.error used, .ok _) => .faulty used none
  | (.error used, .error skipped) => .faulty used (some skipped)

/-- The text that was read, or its fault. -/
def textOf : Except Fault String × Except Fault (List Char) → Node
  | (.ok value, _) => .text value
  | (.error used, .ok _) => .faulty .text used none
  | (.error used, .error skipped) => .faulty .text used (some skipped)

/-- What follows, if reading can go on. -/
def restOf : Except Fault (List Char) → Option (List Char)
  | .ok r => some r
  | .error _ => none

mutual

/-- Reads a value, and gives what follows it if reading can go on. -/
def readValue : (limit : Nat) → List Char → Node × Option (List Char)
  | 0, cs => (missing cs, none)
  | n + 1, cs =>
    match skipSpace cs with
    | 'n' :: r => readWord .null ['u', 'l', 'l'] r
    | 't' :: r => readWord (.boolean true) ['r', 'u', 'e'] r
    | 'f' :: r => readWord (.boolean false) ['a', 'l', 's', 'e'] r
    | '"' :: r =>
      let read := readText n r
      (textOf read, restOf read.2)
    | '-' :: r => readNumber true r
    | '[' :: r =>
      match skipSpace r with
      | ']' :: r => (.list [] none, some r)
      | r =>
        let (items, ending, rest) := readItems n r
        (.list items ending, rest)
    | '{' :: r =>
      match skipSpace r with
      | '}' :: r => (.table [] none, some r)
      | r =>
        let (entries, ending, rest) := readEntries n r
        (.table entries ending, rest)
    | c :: r => if Text.isDigit c then readNumber false (c :: r) else (missing (c :: r), none)
    | [] => (missing [], none)

/-- Reads the items of a list, of which there is at least one. -/
def readItems : (limit : Nat) → List Char → List Node × Option Fault × Option (List Char)
  | 0, cs => ([], some (faultAt cs), none)
  | n + 1, cs =>
    match readValue n cs with
    | (item, none) => ([item], none, none)
    | (item, some rest) =>
      match skipSpace rest with
      | ',' :: r =>
        let (items, ending, rest) := readItems n r
        (item :: items, ending, rest)
      | ']' :: r => ([item], none, some r)
      | r => ([item], some (faultAt r), none)

/-- Reads the fields of a table, of which there is at least one. -/
def readEntries : (limit : Nat) → List Char → List (Key × Node) × Option Fault × Option (List Char)
  | 0, cs => ([], some (faultAt cs), none)
  | n + 1, cs =>
    match skipSpace cs with
    | '"' :: r =>
      let read := readText n r
      match read.2 with
      | .error fault => ([(keyOf read, .faulty .missing fault (some fault))], none, none)
      | .ok rest =>
        match skipSpace rest with
        | ':' :: r =>
          match readValue n r with
          | (value, none) => ([(keyOf read, value)], none, none)
          | (value, some rest) =>
            match skipSpace rest with
            | ',' :: r =>
              let (entries, ending, rest) := readEntries n r
              ((keyOf read, value) :: entries, ending, rest)
            | '}' :: r => ([(keyOf read, value)], none, some r)
            | r => ([(keyOf read, value)], some (faultAt r), none)
        | r => ([(keyOf read, missing r)], none, none)
    | r => ([(.faulty (faultAt r) (some (faultAt r)), missing r)], none, none)

end

/-- Reads a JSON text. Every step into a value, an item or a field takes up at least half a character,
so the limit is not met. -/
def read (s : String) : Document :=
  let cs := s.toList
  match readValue (2 * cs.length + 2) cs with
  | (root, none) => ⟨root, none⟩
  | (root, some rest) => ⟨root, if (skipSpace rest).isEmpty then none else some .malformed⟩

end Turnstile.Json
