import Turnstile.Text.Unprintable

/-! Texts as diagnostics show them: strings in quotes with the characters that do not show written by
their code, and records, variants and lists around them. -/
namespace Turnstile.Text

/-- One character inside quotes. An apostrophe stands for itself. -/
def quotedChar (c : Char) : List Char :=
  match c with
  | '"' => ['\\', '"']
  | '\\' => ['\\', '\\']
  | '\n' => ['\\', 'n']
  | '\r' => ['\\', 'r']
  | '\t' => ['\\', 't']
  | '\x00' => ['\\', '0']
  | c =>
    if isUnprintable c then ['\\', 'u', '\x7b'] ++ Nat.toDigits 16 c.toNat ++ ['\x7d'] else [c]

/-- A text in quotes. -/
def quoted (s : String) : String :=
  String.ofList ('"' :: s.toList.flatMap quotedChar ++ ['"'])

/-- A truth value in words. -/
def truth (b : Bool) : String := if b then "true" else "false"

/-- Items in square brackets. -/
def listed (items : List String) : String := "[" ++ ", ".intercalate items ++ "]"

/-- Items in braces. -/
def braced (items : List String) : String := "\x7b" ++ ", ".intercalate items ++ "\x7d"

/-- A variant with one value. -/
def variant (name value : String) : String := name ++ "(" ++ value ++ ")"

/-- A value that may be missing. -/
def optional : Option String → String
  | none => "None"
  | some value => variant "Some" value

/-- Named fields, separated by commas. -/
def fieldList (fields : List (String × String)) : String :=
  ", ".intercalate (fields.map fun (name, value) => name ++ ": " ++ value)

/-- A record with all its fields. -/
def record (name : String) (fields : List (String × String)) : String :=
  name ++ " \x7b " ++ fieldList fields ++ " \x7d"

/-- A record that shows only some of its fields. -/
def partialRecord (name : String) (fields : List (String × String)) : String :=
  name ++ " \x7b " ++ fieldList fields ++ (if fields.isEmpty then ".. \x7d" else ", .. \x7d")

end Turnstile.Text
