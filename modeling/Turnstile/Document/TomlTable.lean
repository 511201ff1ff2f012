import Turnstile.Document.Node

/-! How TOML tables come together. A document names a table by its path, again and again, and a table
may be reached before its own header is: what was said about it decides whether it may be added to. -/
namespace Turnstile.Toml

/-- How a table came to be. -/
inductive Origin where
  /-- By a header of its own. -/
  | header
  /-- By the header of a table inside it. -/
  | path
  /-- By a key with dots. -/
  | dotted
  deriving DecidableEq, Repr

/-- What stands under a name while a document is put together. -/
inductive Branch where
  | value (node : Node)
  | table (origin : Origin) (entries : List (String × Branch))
  /-- The elements are tables with headers of their own. -/
  | tables (elements : List (List (String × Branch)))

/-- Names and what stands under them, in the order in which they were first mentioned. -/
abbrev Branches := List (String × Branch)

namespace Branches

/-- What stands under a name. -/
def find? (name : String) (entries : Branches) : Option Branch := entries.lookup name

/-- Puts something else under a name. -/
def replace (name : String) (branch : Branch) (entries : Branches) : Branches :=
  entries.map fun (n, b) => if n = name then (n, branch) else (n, b)

def remove (name : String) (entries : Branches) : Branches := entries.filter (·.1 ≠ name)

def add (name : String) (branch : Branch) (entries : Branches) : Branches := entries ++ [(name, branch)]

/-- Puts a value under a key. The tables on the way to it may not have headers of their own, and the
last of them has to have come by such keys. -/
def put (name : String) (node : Node) : (path : List String) → Branches → Option Branches
  | [], entries =>
    match entries.find? name with
    | none => some (entries.add name (.value node))
    | some _ => none
  | step :: path, entries =>
    match entries.find? step with
    | none => (put name node path []).map fun inner => entries.add step (.table .dotted inner)
    | some (.table origin inner) =>
      if origin = .dotted || (origin = .path && !path.isEmpty) then
        (put name node path inner).map fun inner => entries.replace step (.table origin inner)
      else none
    | some (.tables elements) =>
      match elements.getLast?, path with
      | some last, _ :: _ =>
        (put name node path last).map fun last =>
          entries.replace step (.tables (elements.dropLast ++ [last]))
      | _, _ => none
    | some (.value _) => none

/-- Changes the table at the end of a path of header names. The last element stands for a list of
tables, and what does not exist comes into being. -/
def within (change : Branches → Option (Branches × α)) :
    (path : List String) → Branches → Option (Branches × α)
  | [], entries => change entries
  | step :: path, entries =>
    match entries.find? step with
    | none => (within change path []).map fun (inner, a) => (entries.add step (.table .path inner), a)
    | some (.table origin inner) =>
      (within change path inner).map fun (inner, a) => (entries.replace step (.table origin inner), a)
    | some (.tables elements) =>
      match elements.getLast? with
      | some last =>
        (within change path last).map fun (last, a) =>
          (entries.replace step (.tables (elements.dropLast ++ [last])), a)
      | none => none
    | some (.value _) => none

/-- Takes out the table under a name, to be opened by its header. It may only have been reached through
headers so far. -/
def takeOut (name : String) (entries : Branches) : Option (Branches × Branches) :=
  match entries.find? name with
  | none => some (entries, [])
  | some (.table .path inner) => some (entries.remove name, inner)
  | some _ => none

/-- Puts a table with a header in its place. -/
def close (name : String) (inner entries : Branches) : Option (Branches × Unit) :=
  match entries.find? name with
  | none => some (entries.add name (.table .header inner), ())
  | some _ => none

/-- Makes sure that there may be a list of tables under a name. -/
def openElement (name : String) (entries : Branches) : Option (Branches × Unit) :=
  match entries.find? name with
  | none => some (entries.add name (.tables []), ())
  | some (.tables _) => some (entries, ())
  | some _ => none

/-- Puts one more table at the end of a list of tables. -/
def closeElement (name : String) (inner entries : Branches) : Option (Branches × Unit) :=
  match entries.find? name with
  | none => some (entries.add name (.tables [inner]), ())
  | some (.tables elements) => some (entries.replace name (.tables (elements ++ [inner])), ())
  | some _ => none

end Branches

/-- One line of a document that says something. -/
inductive Statement where
  | header (path : List String) (name : String)
  | element (path : List String) (name : String)
  | pair (path : List String) (name : String) (value : Node)

/-- The table that lines are about: the root, or one with a header. -/
inductive Place where
  | root
  | table (path : List String) (name : String)
  | element (path : List String) (name : String)

/-- A document that is being put together. The table that lines are about is kept outside the tree until
the next header. -/
structure Assembly where
  tree : Branches
  place : Place
  current : Branches

namespace Assembly

def empty : Assembly := ⟨[], .root, []⟩

/-- Puts the current table in its place. -/
def settle (a : Assembly) : Option Branches :=
  match a.place with
  | .root => some a.current
  | .table path name => (a.tree.within (Branches.close name a.current) path).map (·.1)
  | .element path name => (a.tree.within (Branches.closeElement name a.current) path).map (·.1)

/-- Takes in one line; nothing if it contradicts the lines before it. -/
def add (a : Assembly) : Statement → Option Assembly
  | .header path name => do
    let tree ← a.settle
    let (tree, current) ← tree.within (Branches.takeOut name) path
    some ⟨tree, .table path name, current⟩
  | .element path name => do
    let tree ← a.settle
    let (tree, _) ← tree.within (Branches.openElement name) path
    some ⟨tree, .element path name, []⟩
  | .pair path name value => (a.current.put name value path).map fun current => { a with current }

end Assembly

/-- The tree that lines add up to; nothing if one contradicts those before it. -/
def assemble (lines : List Statement) : Option Branches := do
  let assembly ← lines.foldlM Assembly.add Assembly.empty
  assembly.settle

/-- The tree of an inline table; nothing if one pair contradicts those before it. -/
def assembleInline (pairs : List (List String × String × Node)) : Option Branches :=
  pairs.foldlM (fun entries (path, name, value) => entries.put name value path) []

mutual

/-- What stands under a name, as part of a document tree. -/
def Branch.node : Branch → Node
  | .value node => node
  | .table _ entries => .table (entryNodes entries) none
  | .tables elements => .series (elementNodes elements)

def entryNodes : List (String × Branch) → List (Key × Node)
  | [] => []
  | (name, branch) :: rest => (.named name, branch.node) :: entryNodes rest

def elementNodes : List (List (String × Branch)) → List Node
  | [] => []
  | entries :: rest => .table (entryNodes entries) none :: elementNodes rest

end

/-- A table as part of a document tree. -/
def Branches.node (entries : Branches) : Node := .table (entryNodes entries) none

end Turnstile.Toml
