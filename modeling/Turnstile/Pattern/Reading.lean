import Turnstile.Pattern.Mode
import Turnstile.Text.Alphanumeric
import Turnstile.Text.Digits

/-! How patterns are written: characters stand for themselves; brackets, stars, bars and their like
stand for sets, repetitions and choices, unless a backslash is before them. -/
namespace Turnstile

/-- What is wrong with a written pattern. -/
inductive PatternError where
  | malformed
  /-- It asks something about the words of any script. -/
  | scriptEdge
  deriving DecidableEq, Repr

def PatternError.message : PatternError → String
  | malformed => "error building NFA"
  | scriptEdge => "unsupported regex feature for DFAs: cannot build DFAs for regexes with Unicode " ++
      "word boundaries; switch to ASCII word boundaries, or heuristically enable Unicode word " ++
      "boundaries or use a different regex engine"

namespace Pattern

/-- How deep the parts of a pattern may be nested. -/
def nestingLimit : Nat := 250

/-- The depth of parts side by side. If there are several, they lie one level deeper. -/
def depthOf : List Nat → Nat
  | [] => 0
  | [d] => d
  | ds => ds.foldl max 0 + 1

/-! ## Escapes -/

/-- What a backslash and the characters after it stand for. -/
inductive Escape where
  | char (c : Char)
  | set (s : CharSet)
  | boundary (kind : Boundary)
  deriving DecidableEq, Repr

/-- The character with a code that is written in so many hexadecimal digits. -/
def readCode (mode : Mode) : (count : Nat) → (digits : List Char) → List Char →
    Option (Char × List Char)
  | 0, digits, cs =>
    let code := Text.numeral 16 digits
    if code.isValidChar then some (Char.ofNat code, cs) else none
  | n + 1, digits, cs =>
    match mode.skip cs with
    | [] => none
    | c :: r => if Text.isHexDigit c then readCode mode n (digits ++ [c]) r else none

/-- The character with a code of two digits. In ASCII it is a byte, and one beyond is no character. -/
def readByte (mode : Mode) (cs : List Char) : Option (Char × List Char) :=
  (readCode mode 2 [] cs).filter fun (c, _) => !mode.ascii || c.toNat < 0x80

/-- Reads what follows a backslash. -/
def readEscape (mode : Mode) : List Char → Option (Escape × List Char)
  | [] => none
  | c :: r =>
    let char (read : Option (Char × List Char)) := read.map fun (c, r) => (Escape.char c, r)
    match c with
    | 'x' => char (readByte mode r)
    | 'u' => char (readCode mode 4 [] r)
    | 'U' => char (readCode mode 8 [] r)
    | 'a' => some (.char '\x07', r)
    | 'f' => some (.char '\x0c', r)
    | 't' => some (.char '\t', r)
    | 'n' => some (.char '\n', r)
    | 'r' => some (.char '\r', r)
    | 'v' => some (.char '\x0b', r)
    | 'A' => some (.boundary .textStart, r)
    | 'z' => some (.boundary .textEnd, r)
    | 'b' => some (.boundary (mode.aboutWords .wordEdge), r)
    | 'B' => some (.boundary (mode.aboutWords .noWordEdge), r)
    | '<' => some (.boundary (mode.aboutWords .wordStart), r)
    | '>' => some (.boundary (mode.aboutWords .wordEnd), r)
    | c =>
      if c.toNat < 0x80 && !c.isAlphanum then some (.char c, r)
      else (mode.class? c).map fun s => (.set s, r)

/-! ## Sets in brackets -/

/-- A set, and how deep it is nested as it is written. -/
structure SetDraft where
  set : CharSet
  depth : Nat
  deriving DecidableEq, Repr

/-- The set so far, and the operation that joins it with what follows. -/
structure Operand where
  join : CharSet → CharSet → CharSet
  left : SetDraft

/-- What the operand and the members after it make together. -/
def Operand.apply (mode : Mode) (operand : Option Operand) (members : List SetDraft) : SetDraft :=
  let right : SetDraft :=
    ⟨mode.closed (.unionOf (members.map (·.set))), depthOf (members.map (·.depth))⟩
  match operand with
  | some o => ⟨o.join o.left.set right.set, max o.left.depth right.depth + 1⟩
  | none => right

/-- A character as a member of a set. -/
def memberChar (mode : Mode) (c : Char) : Option Char :=
  if mode.tellsApart && (!mode.ascii || c.toNat < 0x80) then some c else none

/-- Reads a named set after its bracket and colon; none if it is no name. -/
def readNamedSet (mode : Mode) (cs : List Char) : Option (CharSet × List Char) := do
  let (negated, cs) := match cs with
    | '^' :: r => (true, r)
    | cs => (false, cs)
  let s ← CharSet.named (String.ofList (cs.takeWhile (· ≠ ':')))
  match cs.dropWhile (· ≠ ':') with
  | ':' :: ']' :: r => some (if negated then mode.complement s else s, r)
  | _ => none

/-- Reads a character of a set, or a class in its place. -/
def readMember (mode : Mode) : List Char → Option (Escape × List Char)
  | [] => none
  | '\\' :: r => readEscape mode r
  | c :: r => some (.char c, r)

/-- Reads a member of a set, or a range with a hyphen in it. -/
def readSpan (mode : Mode) (cs : List Char) : Option (CharSet × List Char) := do
  let (first, rest) ← readMember mode cs
  let single : Option (CharSet × List Char) := match first with
    | .char c => (memberChar mode c).map fun c => (CharSet.single c, rest)
    | .set s => some (s, rest)
    | .boundary _ => none
  match mode.skip rest with
  | '-' :: r =>
    match mode.skip r with
    | [] => none
    | ']' :: _ => single
    | '-' :: _ => single
    | r =>
      let (last, rest) ← readMember mode r
      match first, last with
      | .char a, .char b => do
        let a ← memberChar mode a
        let b ← memberChar mode b
        if a ≤ b then some (CharSet.range a b, rest) else none
      | _, _ => none
  | _ => single

/-- Reads the hyphens at the front of a set, as members of it. -/
def readHyphens (mode : Mode) : (limit : Nat) → List Char → List SetDraft × List Char
  | 0, cs => ([], cs)
  | n + 1, cs =>
    match mode.skip cs with
    | '-' :: r =>
      let (members, rest) := readHyphens mode n r
      (⟨CharSet.single '-', 0⟩ :: members, rest)
    | r => ([], r)

mutual

/-- Reads a set after its opening bracket. Hyphens and a closing bracket at its front stand for
themselves. -/
def readSet (mode : Mode) : (limit : Nat) → List Char → Option (SetDraft × List Char)
  | 0, _ => none
  | n + 1, cs => do
    let (negated, cs) := match mode.skip cs with
      | '^' :: r => (true, mode.skip r)
      | cs => (false, cs)
    let (front, cs) : List SetDraft × List Char := match cs with
      | ']' :: r => ([⟨CharSet.single ']', 0⟩], r)
      | cs => readHyphens mode (cs.length + 1) cs
    if !front.isEmpty && !mode.tellsApart then none
    let (draft, rest) ← readMembers mode n none front cs
    let s ← mode.checked (if negated then mode.complement draft.set else draft.set)
    some (⟨s, draft.depth⟩, rest)

/-- Reads the members of a set up to its closing bracket. -/
def readMembers (mode : Mode) : (limit : Nat) → Option Operand → List SetDraft → List Char →
    Option (SetDraft × List Char)
  | 0, _, _, _ => none
  | n + 1, operand, members, cs =>
    let onwards (join : CharSet → CharSet → CharSet) (r : List Char) :=
      readMembers mode n (some ⟨join, Operand.apply mode operand members⟩) [] r
    match mode.skip cs with
    | [] => none
    | ']' :: r => some (Operand.apply mode operand members, r)
    | '&' :: '&' :: r => onwards CharSet.common r
    | '-' :: '-' :: r => onwards CharSet.without r
    | '~' :: '~' :: r => onwards CharSet.either r
    | '[' :: r =>
      let named := match r with
        | ':' :: r => readNamedSet mode r
        | _ => none
      match named with
      | some (s, rest) => do
        let s ← mode.checked s
        if mode.tellsApart then readMembers mode n operand (members ++ [⟨s, 0⟩]) rest else none
      | none => do
        let (draft, rest) ← readSet mode n r
        readMembers mode n operand (members ++ [⟨draft.set, draft.depth + 1⟩]) rest
    | cs => do
      let (s, rest) ← readSpan mode cs
      readMembers mode n operand (members ++ [⟨s, 0⟩]) rest

end

/-! ## Groups -/

/-- How a parenthesis with a question mark goes on. -/
inductive Opening where
  /-- The mode changes for the rest of the group around. -/
  | change (mode : Mode)
  | group (mode : Mode) (name : Option String)
  deriving DecidableEq, Repr

/-- Reads the letters that change the mode, up to a colon or the end of the group. A hyphen puts off what
follows. Nothing may be there twice, and no hyphen at the end. -/
def readFlags (mode : Mode) (seen : List Char) : List Char → Option (Opening × List Char)
  | [] => none
  | c :: r =>
    if c = ':' then if seen.head? = some '-' then none else some (.group mode none, r)
    else if c = ')' then
      if seen.isEmpty || seen.head? = some '-' then none else some (.change mode, r)
    else if seen.contains c then none
    else if c = '-' then readFlags mode (c :: seen) r
    else
      match mode.changed? c (!seen.contains '-') with
      | some mode => readFlags mode (c :: seen) r
      | none => none

/-- Reads the name of a group, up to its closing angle bracket. -/
def readName (cs : List Char) : Option (String × List Char) :=
  match cs.takeWhile (· ≠ '>'), cs.dropWhile (· ≠ '>') with
  | first :: more, '>' :: r =>
    let begins := first = '_' || Text.isAlphabetic first
    let goesOn := more.all fun c => ['_', '.', '[', ']'].contains c || Text.isAlphanumeric c
    if begins && goesOn then some (String.ofList (first :: more), r) else none
  | _, _ => none

/-- Reads the front of a group after its question mark: a name, or a mode. -/
def readOpening (mode : Mode) (cs : List Char) : Option (Opening × List Char) :=
  let named (r : List Char) : Option (Opening × List Char) :=
    (readName r).map fun (name, rest) => (.group mode (some name), rest)
  match cs with
  | 'P' :: '<' :: r => named r
  | '<' :: r => named r
  | cs => readFlags mode [] cs

/-! ## Patterns -/

/-- A pattern, how deep it is nested as it is written, and the names of its groups. -/
structure Draft where
  pattern : Pattern
  depth : Nat
  names : List String
  deriving DecidableEq, Repr

namespace Draft

/-- A pattern without parts. -/
def leaf (pattern : Pattern) : Draft := ⟨pattern, 0, []⟩

/-- One level deeper. -/
def deeper (wrap : Pattern → Pattern) (draft : Draft) : Draft :=
  { draft with pattern := wrap draft.pattern, depth := draft.depth + 1 }

/-- Several drafts side by side. -/
def join (combine : List Pattern → Pattern) (drafts : List Draft) : Draft :=
  ⟨combine (drafts.map (·.pattern)), depthOf (drafts.map (·.depth)), drafts.flatMap (·.names)⟩

end Draft

/-- Reads the marks of repetition after a pattern. There are no counted ones. -/
def readMarks (mode : Mode) (draft : Draft) : (limit : Nat) → List Char → Option (Draft × List Char)
  | 0, cs => some (draft, cs)
  | n + 1, cs =>
    let marked (wrap : Bool → Pattern → Pattern) (r : List Char) :=
      match r with
      | '?' :: r => readMarks mode (draft.deeper (wrap mode.swapsGreed)) n r
      | r => readMarks mode (draft.deeper (wrap !mode.swapsGreed)) n r
    match mode.skip cs with
    | '*' :: r => marked anyNumber r
    | '+' :: r => marked plus r
    | '?' :: r => marked optional r
    | '\x7b' :: _ => none
    | cs => some (draft, cs)

/-- What an escape stands for outside of sets. -/
def Escape.pattern (mode : Mode) : Escape → Option Pattern
  | char c => mode.literal c
  | set s => some (.one s)
  | boundary kind => some (.boundary kind)

/-- What a character stands for by itself. A mark of repetition has to follow something. -/
def readPlain (mode : Mode) (c : Char) : Option Pattern :=
  match c with
  | '*' => none
  | '+' => none
  | '?' => none
  | '\x7b' => none
  | '^' => some (.boundary mode.beginning)
  | '$' => some (.boundary mode.ending)
  | '.' => mode.dot
  | c => mode.literal c

mutual

/-- Reads the branches of a choice. -/
def readBranches (mode : Mode) : (limit : Nat) → List Char → Option (List Draft × List Char)
  | 0, _ => none
  | n + 1, cs => do
    let (parts, mode, rest) ← readSequence mode n cs
    let first := Draft.join sequenceOf parts
    match rest with
    | '|' :: r =>
      let (others, rest) ← readBranches mode n r
      some (first :: others, rest)
    | rest => some ([first], rest)

/-- Reads patterns one after the other, and the mode at their end. -/
def readSequence (mode : Mode) : (limit : Nat) → List Char → Option (List Draft × Mode × List Char)
  | 0, _ => none
  | n + 1, cs =>
    match mode.skip cs with
    | [] => some ([], mode, [])
    | '|' :: r => some ([], mode, '|' :: r)
    | ')' :: r => some ([], mode, ')' :: r)
    | '(' :: r =>
      match mode.skip r with
      | '?' :: r =>
        match readOpening mode r with
        | none => none
        | some (.change inner, rest) => do
          let (others, mode, rest) ← readSequence inner n rest
          some (Draft.leaf .empty :: others, mode, rest)
        | some (.group inner name, rest) => do
          let (draft, rest) ← readGroup inner name n rest
          readRest mode n draft rest
      | r => do
        let (draft, rest) ← readGroup mode none n r
        readRest mode n draft rest
    | '[' :: r => do
      let (draft, rest) ← readSet mode n r
      readRest mode n ⟨.one draft.set, draft.depth + 1, []⟩ rest
    | '\\' :: r => do
      let (escape, rest) ← readEscape mode r
      let p ← escape.pattern mode
      readRest mode n (Draft.leaf p) rest
    | c :: r => do
      let p ← readPlain mode c
      readRest mode n (Draft.leaf p) r

/-- Reads what follows a pattern. -/
def readRest (mode : Mode) : (limit : Nat) → Draft → List Char →
    Option (List Draft × Mode × List Char)
  | 0, _, _ => none
  | n + 1, draft, cs => do
    let (draft, rest) ← readMarks mode draft (cs.length + 1) cs
    let (others, mode, rest) ← readSequence mode n rest
    some (draft :: others, mode, rest)

/-- Reads a group up to its closing parenthesis. -/
def readGroup (mode : Mode) (name : Option String) :
    (limit : Nat) → List Char → Option (Draft × List Char)
  | 0, _ => none
  | n + 1, cs => do
    let (branches, rest) ← readBranches mode n cs
    match rest with
    | ')' :: r =>
      let inner := Draft.join choiceOf branches
      some (⟨inner.pattern, inner.depth + 1, name.toList ++ inner.names⟩, r)
    | _ => none

end

/-- Reads all of a text. Every step takes up at least a third of a character, so the limit is not met. -/
def readDraft (source : String) : Option Draft :=
  match readBranches .default (3 * source.length + 3) source.toList with
  | some (branches, []) => some (Draft.join choiceOf branches)
  | _ => none

/-- Reads a pattern. No two groups have one name. -/
def read (source : String) : Except PatternError Pattern :=
  match readDraft source with
  | none => .error .malformed
  | some draft =>
    if nestingLimit < draft.depth || !decide draft.names.Nodup then .error .malformed
    else if draft.pattern.asks .scriptEdge then .error .scriptEdge
    else .ok draft.pattern

end Pattern

end Turnstile
