import Turnstile.Decimal.Style
import Turnstile.Document.Node

/-! The writer of JSON texts: no blanks, fields in their order, and no escapes but those that the
format demands. -/
namespace Turnstile.Json

/-- The hexadecimal digits of a number below 256, two of them. -/
def hexPair (n : Nat) : List Char := [Nat.digitChar (n / 16), Nat.digitChar (n % 16)]

/-- One character inside quotes. -/
def escape (c : Char) : List Char :=
  match c with
  | '"' => ['\\', '"']
  | '\\' => ['\\', '\\']
  | '\x08' => ['\\', 'b']
  | '\x0c' => ['\\', 'f']
  | '\n' => ['\\', 'n']
  | '\r' => ['\\', 'r']
  | '\t' => ['\\', 't']
  | c => if c.toNat < 0x20 then ['\\', 'u', '0', '0'] ++ hexPair c.toNat else [c]

/-- A text in quotes. -/
def writeText (s : String) : String := String.ofList ('"' :: s.toList.flatMap escape ++ ['"'])

/-- A number, or `null` for one that is not finite. -/
def writeReal (x : Float) : String := if x.isFinite then Decimal.compact.write x else "null"

end Turnstile.Json

namespace Turnstile

/-- A tree as JSON text. What has no JSON form is written as `null`, and a field without a name is left
out. -/
def Node.toJson : Node → String
  | .null => "null"
  | .boolean value => if value then "true" else "false"
  | .integer value => toString value
  | .real value => Json.writeReal value
  | .text value => Json.writeText value
  | .list items _ => "[" ++ ",".intercalate (itemTexts items) ++ "]"
  | .series tables => "[" ++ ",".intercalate (itemTexts tables) ++ "]"
  | .table entries _ => "\x7b" ++ ",".intercalate (entryTexts entries) ++ "\x7d"
  | .moment _ => "null"
  | .faulty .. => "null"
where
  itemTexts : List Node → List String
    | [] => []
    | item :: rest => item.toJson :: itemTexts rest
  entryTexts : List (Key × Node) → List String
    | [] => []
    | (key, value) :: rest =>
      match key with
      | .named name => (Json.writeText name ++ ":" ++ value.toJson) :: entryTexts rest
      | _ => entryTexts rest

end Turnstile
