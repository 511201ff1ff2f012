import Turnstile.Text.Blank

/-! Directories and files as data: what a program finds at a path, and how it looks for a file in the
directories above. -/
namespace Turnstile

/-- What is found at a path. -/
inductive Found where
  | nothing
  | directory
  /-- A file that is no UTF-8. -/
  | bytes (content : List UInt8)
  | text (content : String)
  deriving DecidableEq, Repr

/-- Files and directories by their names from the root of the tree on. The directories on the way to
each of them exist too. -/
structure FileTree where
  entries : List (List String × Found)
  /-- The directory in which a program runs. -/
  here : List String
  deriving DecidableEq, Repr

/-- A file with this content. -/
def Found.ofBytes (content : List UInt8) : Found :=
  match String.fromUTF8? ⟨content.toArray⟩ with
  | some s => .text s
  | none => .bytes content

namespace FileTree

/-- Is one of the directories on the way to the names. -/
def leadsTo (names path : List String) : Bool := names.isPrefixOf path

/-- What is at a place. The root and the directories down to where the program runs exist. -/
def at? (tree : FileTree) (names : List String) : Found :=
  match tree.entries.lookup names with
  | some found => found
  | none =>
    if leadsTo names tree.here || tree.entries.any (fun entry => leadsTo names entry.1) then .directory
    else .nothing

/-- A place: so many directories above the root of the tree, or inside it. -/
inductive Place where
  | above (levels : Nat)
  | inside (names : List String)
  deriving DecidableEq, Repr

/-- The place one name away; nothing if there is no directory to start from. -/
def Place.step (tree : FileTree) (place : Place) (name : String) : Option Place :=
  match place with
  | .above levels =>
    if name = "" || name = "." then some (.above levels)
    else if name = ".." then some (.above (levels + 1))
    else none
  | .inside names =>
    if tree.at? names ≠ .directory then none
    else if name = "" || name = "." then some (.inside names)
    else if name = ".." then
      if names.isEmpty then some (.above 0) else some (.inside names.dropLast)
    else some (.inside (names ++ [name]))

/-- The most bytes that a path may have. -/
def pathLimit : Nat := 4095

/-- What is found at a path. Nothing is known of the files above the tree. -/
def find (tree : FileTree) (path : String) : Found :=
  if pathLimit < path.utf8ByteSize then .nothing else
  match Text.pieces '/' path.toList with
  | [[]] => .nothing
  | [] :: names =>
    if names.all fun n => n.isEmpty || n = ['.'] || n = ['.', '.'] then .directory else .nothing
  | names =>
    match (names.map String.ofList).foldlM (Place.step tree) (.inside tree.here) with
    | none => .nothing
    | some (.above _) => .directory
    | some (.inside names) => tree.at? names

/-- The first file of a name in a directory or one above it. Directories of that name do not count. -/
def search (tree : FileTree) (name : String) : (directory : List String) → (levels : Nat) → Found
  | directory, 0 => fileAt directory
  | directory, levels + 1 =>
    match fileAt directory with
    | .nothing => search tree name directory.dropLast levels
    | found => found
where
  fileAt (directory : List String) : Found :=
    match tree.at? (directory ++ [name]) with
    | .directory => .nothing
    | found => found

/-- The first file of a name from where the program runs upwards. -/
def findAbove (tree : FileTree) (name : String) : Found := tree.search name tree.here tree.here.length

end FileTree

/-- The last name of a path, if it has one. -/
def fileName? (path : String) : Option (List Char) :=
  let names := (Text.pieces '/' path.toList).filter fun n => !n.isEmpty && n ≠ ['.']
  names.getLast?.filter (· ≠ ['.', '.'])

/-- What follows the last dot of a name. A dot at its front does not count. -/
def extension? (path : String) : Option String := do
  let name ← fileName? path
  match (Text.pieces '.' name).reverse with
  | last :: before :: more =>
    if more.isEmpty && before.isEmpty then none else some (String.ofList last)
  | _ => none

end Turnstile
