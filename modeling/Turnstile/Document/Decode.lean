import Turnstile.Decimal.Style
import Turnstile.Document.Node
import Turnstile.Text.Quoted
import Turnstile.Users

/-! Values out of document trees. A decoder takes a tree in the order in which it was written and stops
at the first thing it objects to: a value that does not fit, or a fault of the text. -/
namespace Turnstile

/-- The formats that documents are written in. -/
inductive Format where
  | toml
  | json
  deriving DecidableEq, Repr

/-- How a readable value fails to fit. Names of values are already in the words of the message. -/
inductive Misfit where
  | unknownField (name : String) (known : List String)
  | repeatedField (name : String)
  | missingField (name : String)
  | unknownVariant (name : String) (known : List String)
  | wrongType (found expected : String)
  | wrongLength (length : Nat) (expected : String)
  /-- Neither zero nor several fields name a variant. -/
  | notOneVariant
  | noVariant
  | manyVariants
  | neitherTextNorTable
  /-- The value under the name of a variant has to be an empty table. -/
  | notATable (found : String)
  | notEmptyTable
  | notEmptyList
  deriving DecidableEq, Repr

/-- Why a document is not taken. -/
inductive DecodeError where
  | misfit (misfit : Misfit)
  | fault (fault : Fault)
  deriving DecidableEq, Repr

/-- What a value is read by. -/
abbrev Decoder (α : Type) := Format → Node → Except DecodeError α

namespace Misfit

/-- The names that would have done. -/
def oneOf : List String → String
  | [a] => "`" ++ a ++ "`"
  | [a, b] => "`" ++ a ++ "` or `" ++ b ++ "`"
  | names => "one of " ++ ", ".intercalate (names.map fun n => "`" ++ n ++ "`")

def message : Misfit → String
  | unknownField name known => "unknown field `" ++ name ++ "`, expected " ++ oneOf known
  | repeatedField name => "duplicate field `" ++ name ++ "`"
  | missingField name => "missing field `" ++ name ++ "`"
  | unknownVariant name known => "unknown variant `" ++ name ++ "`, expected " ++ oneOf known
  | wrongType found expected => "invalid type: " ++ found ++ ", expected " ++ expected
  | wrongLength length expected => "invalid length " ++ toString length ++ ", expected " ++ expected
  | notOneVariant => "invalid value: map, expected map with a single key"
  | noVariant => "wanted exactly 1 element, found 0 elements"
  | manyVariants => "wanted exactly 1 element, more than 1 element"
  | neitherTextNorTable => "wanted string or table"
  | notATable found => "expected table, found " ++ found
  | notEmptyTable => "expected empty table"
  | notEmptyList => "expected empty array"

end Misfit

def DecodeError.message : DecodeError → String
  | misfit m => m.message
  | fault .cutShort => "the text ends too early"
  | fault .malformed => "the text breaks a rule of the format"

/-- A value in the words of a message. -/
def Node.described (format : Format) : Node → String
  | .null => "null"
  | .boolean value => "boolean `" ++ Text.truth value ++ "`"
  | .integer value => "integer `" ++ toString value ++ "`"
  | .real value =>
    let style := match format with
      | .toml => Decimal.pointed
      | .json => Decimal.compact
    "floating point `" ++ style.write value ++ "`"
  | .text value => "string " ++ Text.quoted value
  | .list .. => "sequence"
  | .series _ => "sequence"
  | _ => "map"

/-- Objects to a value that is not what was expected, or to its fault. -/
def Node.unlike (node : Node) (format : Format) (expected : String) : DecodeError :=
  match node with
  | .faulty _ used _ => .fault used
  | node => .misfit (.wrongType (node.described format) expected)

/-- Passes unless there is a fault. -/
def Fault.check : Option Fault → Except DecodeError Unit
  | none => .ok ()
  | some fault => .error (.fault fault)

namespace Decode

def boolean : Decoder Bool
  | _, .boolean value => .ok value
  | format, node => .error (node.unlike format "a boolean")

def text : Decoder String
  | _, .text value => .ok value
  | format, node => .error (node.unlike format "a string")

/-- The texts of a list. -/
def textItems (format : Format) : List Node → Except DecodeError (List String)
  | [] => .ok []
  | item :: rest => do
    let first ← text format item
    let others ← textItems format rest
    .ok (first :: others)

/-- The items of a value, if it is a list. -/
def listOf? : Node → Option (List Node × Option Fault)
  | .list items ending => some (items, ending)
  | .series tables => some (tables, none)
  | _ => none

def texts : Decoder (List String) := fun format node =>
  match listOf? node with
  | some (items, ending) => do
    let values ← textItems format items
    Fault.check ending
    .ok values
  | none => .error (node.unlike format "a sequence")

/-- The name under which a date or a time shows itself where a table is expected. -/
def momentKey : String := "$__toml_private_datetime"

/-- A table as it is read, if the value can pass for one. -/
def tableOf? : Node → Option (List (Key × Node) × Option Fault)
  | .table entries ending => some (entries, ending)
  | .moment written => some ([(.named momentKey, .text written)], none)
  | _ => none

/-- The named texts of a table, on top of others. -/
def userEntries (format : Format) (users : Users) : List (Key × Node) → Except DecodeError Users
  | [] => .ok users
  | (.faulty used _, _) :: _ => .error (.fault used)
  | (.named identity, value) :: rest => do
    let secret ← text format value
    userEntries format (users.insert identity secret) rest

/-- Users by name. Of two fields for one identity the later stands. -/
def users : Decoder Users := fun format node =>
  match tableOf? node with
  | some (entries, ending) => do
    let users ← userEntries format .empty entries
    Fault.check ending
    .ok users
  | none => .error (node.unlike format "a map")

/-- The value with this name among those that a document may name. -/
def named (values : List α) (nameOf : α → String) (name : String) : Except DecodeError α :=
  match values.find? (nameOf · = name) with
  | some value => .ok value
  | none => .error (.misfit (.unknownVariant name (values.map nameOf)))

/-- The kind of a value that stands where a table has to stand. -/
def kindName : Node → String
  | .integer _ => "integer"
  | .text _ => "string"
  | .real _ => "float"
  | .boolean _ => "boolean"
  | _ => "datetime"

/-- Nothing but an empty table or list may stand under the name of a variant. -/
def emptyTable : Node → Except DecodeError Unit
  | .table [] _ => .ok ()
  | .table .. => .error (.misfit .notEmptyTable)
  | .list [] _ => .ok ()
  | .list .. => .error (.misfit .notEmptyTable)
  | .series _ => .error (.misfit .notEmptyList)
  | node => .error (.misfit (.notATable (kindName node)))

/-- Nothing but `null` may stand under the name of a variant. -/
def unit : Decoder Unit
  | _, .null => .ok ()
  | format, node => .error (node.unlike format "unit")

/-- One of several named values. It may also be written as a table with the name as its only field. -/
def choice (values : List α) (nameOf : α → String) : Decoder α
  | _, .text name => named values nameOf name
  | .json, .table [] ending => .error (.fault (ending.getD .malformed))
  | .json, .table ((.faulty used _, _) :: _) _ => .error (.fault used)
  | .json, .table ((.named name, value) :: rest) ending => do
    let chosen ← named values nameOf name
    unit .json value
    if rest.isEmpty then
      Fault.check ending
      .ok chosen
    else .error (.fault .malformed)
  | .json, .faulty .word _ _ => .error (.fault .malformed)
  | .json, .faulty _ used _ => .error (.fault used)
  | .json, _ => .error (.fault .malformed)
  | .toml, .table [] _ => .error (.misfit .noVariant)
  | .toml, .table [(.named name, value)] _ => do
    let chosen ← named values nameOf name
    emptyTable value
    .ok chosen
  | .toml, .table .. => .error (.misfit .manyVariants)
  | .toml, _ => .error (.misfit .neitherTextNorTable)

end Decode

/-- A field of a record: its name, how its value is read, and the value that it has if it is left out. -/
structure Field where
  name : String
  Value : Type
  decode : Decoder Value
  standard : Value

/-- A value for each of these fields. -/
abbrev Row (known : List Field) := (i : Fin known.length) → (known.get i).Value

/-- What was read so far for each of these fields, if anything. -/
abbrev Slots (known : List Field) := (i : Fin known.length) → Option (known.get i).Value

namespace Decode

section Records
variable {known : List Field}

/-- With this value read for one field. -/
def write (slots : Slots known) (i : Fin known.length) (v : (known.get i).Value) : Slots known :=
  fun j => if h : j = i then some (h ▸ v) else slots j

/-- Reads the fields of a table, in the order in which they were written. -/
def fields (format : Format) (slots : Slots known) :
    List (Key × Node) → Except DecodeError (Slots known)
  | [] => .ok slots
  | (.faulty used _, _) :: _ => .error (.fault used)
  | (.named name, value) :: rest =>
    match known.findFinIdx? (·.name = name) with
    | none => .error (.misfit (.unknownField name (known.map (·.name))))
    | some i =>
      if (slots i).isSome then .error (.misfit (.repeatedField name))
      else do
        let v ← (known.get i).decode format value
        fields format (write slots i v) rest

/-- What was read for each field, and for a field that was left out its own standard value. -/
def complete (slots : Slots known) : Row known := fun i => (slots i).getD (known.get i).standard

end Records

/-- More items than fields break the rules of one format and are ignored by the other. -/
def surplus? : Format → Option Fault
  | .json => some .malformed
  | .toml => none

/-- What a record with these fields is read from, if the value can pass for one. The items of a list are
the fields in the order in which these were declared. -/
def entriesOf? (format : Format) (names : List String) (node : Node) :
    Option (List (Key × Node) × Option Fault) :=
  match listOf? node with
  | some (values, ending) =>
    some ((names.zip values).map fun (name, value) => (.named name, value),
      if values.length ≤ names.length then ending else surplus? format)
  | none => tableOf? node

/-- A record, put together from a value for each of its fields. -/
def record (name : String) (known : List Field) (build : Row known → σ) : Decoder σ :=
  fun format node =>
    match entriesOf? format (known.map (·.name)) node with
    | some (entries, ending) => do
      let slots ← fields format (fun _ => none) entries
      Fault.check ending
      .ok (build (complete slots))
    | none => .error (node.unlike format ("struct " ++ name))

end Decode

/-- Reads a whole document. -/
def Document.decode (format : Format) (decode : Decoder α) (d : Document) : Except DecodeError α := do
  let value ← decode format d.root
  Fault.check d.trailing
  .ok value

end Turnstile
