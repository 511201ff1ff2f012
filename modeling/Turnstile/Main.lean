import Turnstile.CommandLine

/-! The program: what surrounds a run is looked up, and what the run leaves behind is written. -/
namespace Turnstile

/-- The variable that a line of the form `NAME=value` sets. -/
def Environment.ofLine (line : List Char) : Option (String × String) :=
  (Text.cutAt '=' line).map fun (name, value) => (String.ofList name, String.ofList value)

/-- The variables of a process, out of the text in which the system lists them. -/
def Environment.ofListing (listing : String) : Environment :=
  ⟨(Text.pieces '\x00' listing.toList).filterMap ofLine⟩

namespace Program

/-- The variables of this process. -/
def readEnvironment : IO Environment := do
  let bytes ← IO.FS.readBinFile "/proc/self/environ"
  return .ofListing ((String.fromUTF8? bytes).getD "")

/-- What is found at a path, from the working directory on. -/
def readFound (path : String) : IO Found := do
  let place := (← IO.currentDir) / path
  if path.isEmpty || !(← place.pathExists) then return .nothing
  else if ← place.isDir then return .directory
  else return Found.ofBytes (← IO.FS.readBinFile place).toList

/-- The first file of variables from the working directory upwards, which is at most so many names
below the root. -/
def readDotEnv : IO Found := do
  let mut directory ← IO.currentDir
  for _ in directory.components do
    let place := directory / ".env"
    if (← place.pathExists) && !(← place.isDir) then
      return Found.ofBytes (← IO.FS.readBinFile place).toList
    match directory.parent with
    | some parent => directory := parent
    | none => return .nothing
  return .nothing

/-- The world of this process. Only one file can be asked for: the one that the variables name, or else
the one that need not be named. -/
def readWorld : IO World := do
  let env ← readEnvironment
  let dotEnv ← readDotEnv
  let bare : World := ⟨env, dotEnv, fun _ => .nothing⟩
  let path := match bare.withDotEnv with
    | .ok w => (namedFile? w.env).getD defaultFile
    | .error _ => defaultFile
  let found ← readFound path
  return { bare with file := fun p => if p = path then found else .nothing }

/-- Writes what a run leaves behind: the log before the outcome. -/
def writeRun (run : Run) : IO Unit := do
  match run.log with
  | .json lines => for line in lines do IO.eprintln line.toJson
  | .pretty texts => for text in texts do IO.eprint text
  IO.eprint run.stderr
  IO.print run.stdout

end Program

end Turnstile

/-- Runs the program on the arguments of this process. -/
def main (arguments : List String) : IO UInt32 := do
  let run := Turnstile.Program.run (← Turnstile.Program.readWorld) ⟨0, 0⟩ arguments
  Turnstile.Program.writeRun run
  return run.exit.toUInt32
