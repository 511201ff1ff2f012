import Turnstile.Text.Digits

/-! Texts of TOML documents: in double quotes with escapes or in single quotes without, on one line or
on several. -/
namespace Turnstile.Toml

/-- May stand in a line as it is: no control character but the tab. -/
def isPlain (c : Char) : Bool := c = '\t' || (0x20 ≤ c.toNat && c.toNat ≠ 0x7f)

/-- What follows a line end, if there is one. -/
def afterLineEnd? : List Char → Option (List Char)
  | '\n' :: r => some r
  | '\r' :: '\n' :: r => some r
  | _ => none

/-- Without the blanks at the front. -/
def skipBlanks : List Char → List Char
  | ' ' :: r => skipBlanks r
  | '\t' :: r => skipBlanks r
  | cs => cs

/-- Without the blanks and the line ends at the front. -/
def skipBlankLines : List Char → List Char
  | ' ' :: r => skipBlankLines r
  | '\t' :: r => skipBlankLines r
  | '\n' :: r => skipBlankLines r
  | '\r' :: '\n' :: r => skipBlankLines r
  | cs => cs

/-- Is the number of a character, and not of half a surrogate pair. -/
def isScalar (n : Nat) : Bool := n < 0xd800 || (0xdfff < n && n < 0x110000)

/-- A character by its number, written in so many hexadecimal digits. -/
def readCode (digits : Nat) (cs : List Char) : Option (Char × List Char) :=
  let ds := cs.take digits
  let n := Text.numeral 16 ds
  if ds.length = digits && ds.all Text.isHexDigit && isScalar n then
    some (Char.ofNat n, cs.drop digits)
  else none

/-- Reads an escape after its backslash. -/
def readEscape : List Char → Option (Char × List Char)
  | 'b' :: r => some ('\x08', r)
  | 'f' :: r => some ('\x0c', r)
  | 'n' :: r => some ('\n', r)
  | 'r' :: r => some ('\r', r)
  | 't' :: r => some ('\t', r)
  | '\\' :: r => some ('\\', r)
  | '"' :: r => some ('"', r)
  | 'u' :: r => readCode 4 r
  | 'U' :: r => readCode 8 r
  | _ => none

/-- Reads a line of text after its opening double quote. Every step takes up a character, so a limit of
as many steps as there are characters is not met. -/
def readEscapedLine : (limit : Nat) → List Char → Option (List Char × List Char)
  | 0, _ => none
  | _ + 1, [] => none
  | n + 1, c :: r =>
    if c = '"' then some ([], r)
    else if c = '\\' then do
      let (e, r) ← readEscape r
      let (text, rest) ← readEscapedLine n r
      some (e :: text, rest)
    else if isPlain c then do
      let (text, rest) ← readEscapedLine n r
      some (c :: text, rest)
    else none

/-- Reads a line of text after its opening single quote. -/
def readLiteralLine : List Char → Option (List Char × List Char)
  | [] => none
  | c :: r =>
    if c = '\'' then some ([], r)
    else if isPlain c then (readLiteralLine r).map fun (text, rest) => (c :: text, rest)
    else none

/-- Reads lines of text after their opening quotes. One or two quotes in a row belong to the text; of
up to five the last three close it. The limit is as above. -/
def readLines (quote : Char) (escapes : Bool) : (limit : Nat) → List Char →
    Option (List Char × List Char)
  | 0, _ => none
  | _ + 1, [] => none
  | n + 1, c :: r =>
    if c = quote then
      let run := (c :: r).takeWhile (· = quote)
      let rest := (c :: r).dropWhile (· = quote)
      if run.length ≤ 2 then do
        let (text, rest) ← readLines quote escapes n rest
        some (run ++ text, rest)
      else if run.length ≤ 5 then some (run.drop 3, rest)
      else none
    else if escapes && c = '\\' then
      match afterLineEnd? (skipBlanks r) with
      | some r => readLines quote escapes n (skipBlankLines r)
      | none => do
        let (e, r) ← readEscape r
        let (text, rest) ← readLines quote escapes n r
        some (e :: text, rest)
    else if isPlain c then do
      let (text, rest) ← readLines quote escapes n r
      some (c :: text, rest)
    else
      match afterLineEnd? (c :: r) with
      | some r => do
        let (text, rest) ← readLines quote escapes n r
        some ('\n' :: text, rest)
      | none => none

/-- Without the line end at the front that does not belong to a text of several lines. -/
def dropLineEnd (cs : List Char) : List Char := (afterLineEnd? cs).getD cs

/-- Reads a text from its opening quote on, and gives what follows it. -/
def readText (cs : List Char) : Option (String × List Char) :=
  let read := match cs with
    | '"' :: '"' :: '"' :: r => readLines '"' true (r.length + 1) (dropLineEnd r)
    | '"' :: r => readEscapedLine (r.length + 1) r
    | '\'' :: '\'' :: '\'' :: r => readLines '\'' false (r.length + 1) (dropLineEnd r)
    | '\'' :: r => readLiteralLine r
    | _ => none
  read.map fun (text, rest) => (String.ofList text, rest)

def isBareKey (c : Char) : Bool :=
  ('A' ≤ c && c ≤ 'Z') || ('a' ≤ c && c ≤ 'z') || Text.isDigit c || c = '_' || c = '-'

/-- Reads one name of a key. -/
def readName (cs : List Char) : Option (String × List Char) :=
  match cs with
  | '"' :: r => (readEscapedLine (r.length + 1) r).map fun (text, rest) => (String.ofList text, rest)
  | '\'' :: r => (readLiteralLine r).map fun (text, rest) => (String.ofList text, rest)
  | cs =>
    let name := cs.takeWhile isBareKey
    if name.isEmpty then none else some (String.ofList name, cs.dropWhile isBareKey)

/-- Reads the names of a key, with dots between them and blanks around them. -/
def readNames : (limit : Nat) → List Char → Option (List String × List Char)
  | 0, _ => none
  | n + 1, cs => do
    let (name, rest) ← readName (skipBlanks cs)
    match skipBlanks rest with
    | '.' :: r =>
      let (names, rest) ← readNames n r
      some (name :: names, rest)
    | r => some ([name], r)

/-- A key has fewer names than this. -/
def depthLimit : Nat := 80

/-- Reads a key: its names but the last, and the last. -/
def readKey (cs : List Char) : Option (List String × String × List Char) := do
  let (names, rest) ← readNames (cs.length + 1) cs
  let last ← names.getLast?
  if names.length < depthLimit then some (names.dropLast, last, rest) else none

end Turnstile.Toml
