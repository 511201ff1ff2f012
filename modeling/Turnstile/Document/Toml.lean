import Turnstile.Document.TomlNumber
import Turnstile.Document.TomlTable
import Turnstile.Document.TomlText

/-! The reader of TOML documents. A document is read whole or not at all. -/
namespace Turnstile.Toml

/-- Without the comment at the front, if there is one. -/
def skipComment : List Char → List Char
  | '#' :: r => r.dropWhile isPlain
  | cs => cs

/-- What follows the end of a line. The end of the document ends a line too. -/
def endLine (cs : List Char) : Option (List Char) :=
  match skipComment (skipBlanks cs) with
  | [] => some []
  | r => afterLineEnd? r

/-- Without the blanks, line ends and comments at the front. -/
def skipSpace : (limit : Nat) → List Char → List Char
  | 0, cs => cs
  | n + 1, cs =>
    match skipBlankLines cs with
    | '#' :: r => skipSpace n (r.dropWhile isPlain)
    | r => r

mutual

/-- Reads a value. Lists and inline tables may be nested to a certain depth. The limit, on all steps
into a value, an item or a pair, is not met by a text of half as many characters. -/
def readValue : (limit levels : Nat) → List Char → Option (Node × List Char)
  | 0, _, _ => none
  | n + 1, levels, cs =>
    match cs with
    | '"' :: _ => (readText cs).map fun (text, rest) => (.text text, rest)
    | '\'' :: _ => (readText cs).map fun (text, rest) => (.text text, rest)
    | '[' :: r =>
      match levels with
      | 0 => none
      | levels + 1 => do
        let (items, rest) ← readItems n levels r
        some (.listOf items, rest)
    | '\x7b' :: r =>
      match levels with
      | 0 => none
      | levels + 1 =>
        match skipBlanks r with
        | '\x7d' :: r => some (.tableOf [], r)
        | r => do
          let (pairs, rest) ← readPairs n levels r
          let entries ← assembleInline pairs
          some (entries.node, rest)
    | 't' :: 'r' :: 'u' :: 'e' :: r => some (.boolean true, r)
    | 'f' :: 'a' :: 'l' :: 's' :: 'e' :: r => some (.boolean false, r)
    | cs => (readMoment cs).or (readNumber cs)

/-- Reads the items of a list up to its closing bracket. A comma may follow the last. -/
def readItems : (limit levels : Nat) → List Char → Option (List Node × List Char)
  | 0, _, _ => none
  | n + 1, levels, cs =>
    match skipSpace cs.length cs with
    | ']' :: r => some ([], r)
    | cs => do
      let (item, rest) ← readValue n levels cs
      match skipSpace rest.length rest with
      | ',' :: r =>
        let (items, rest) ← readItems n levels r
        some (item :: items, rest)
      | ']' :: r => some ([item], r)
      | _ => none

/-- Reads the pairs of an inline table, of which there is at least one, up to its closing brace. -/
def readPairs : (limit levels : Nat) → List Char →
    Option (List (List String × String × Node) × List Char)
  | 0, _, _ => none
  | n + 1, levels, cs => do
    let (path, name, rest) ← readKey cs
    let rest ← expect '=' rest
    let (value, rest) ← readValue n levels (skipBlanks rest)
    match skipBlanks rest with
    | ',' :: r =>
      let (pairs, rest) ← readPairs n levels r
      some ((path, name, value) :: pairs, rest)
    | '\x7d' :: r => some ([(path, name, value)], r)
    | _ => none

end

/-- Reads a line that says something. -/
def readStatement (cs : List Char) : Option (Statement × List Char) :=
  match cs with
  | '[' :: '[' :: r => do
    let (path, name, rest) ← readKey r
    let rest ← expect ']' rest
    let rest ← expect ']' rest
    let rest ← endLine rest
    some (.element path name, rest)
  | '[' :: r => do
    let (path, name, rest) ← readKey r
    let rest ← expect ']' rest
    let rest ← endLine rest
    some (.header path name, rest)
  | cs => do
    let (path, name, rest) ← readKey cs
    let rest ← expect '=' rest
    let (value, rest) ← readValue (2 * rest.length + 2) (depthLimit - 1) (skipBlanks rest)
    let rest ← endLine rest
    some (.pair path name value, rest)

/-- Reads the lines of a document. Every line takes up a character, so a limit of as many lines as there
are characters is not met. -/
def readStatements : (limit : Nat) → List Char → Option (List Statement)
  | 0, _ => none
  | n + 1, cs =>
    match skipSpace cs.length cs with
    | [] => some []
    | cs => do
      let (statement, rest) ← readStatement cs
      let statements ← readStatements n rest
      some (statement :: statements)

/-- Without the byte order mark at the front. -/
def skipMark : List Char → List Char
  | '\ufeff' :: r => r
  | cs => cs

/-- Reads a TOML document; nothing if it breaks a rule of the format. -/
def read (s : String) : Option Node := do
  let cs := skipMark s.toList
  let statements ← readStatements (cs.length + 1) cs
  let tree ← assemble statements
  some tree.node

end Turnstile.Toml
