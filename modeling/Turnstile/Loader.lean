import Turnstile.DotEnv
import Turnstile.FileTree
import Turnstile.Overrides
import Turnstile.Text.Uppercase

/-! Loading a configuration: a preset or a document, and variables on top of it. -/
namespace Turnstile

/-- What a process finds around it: its variables, the nearest file of variables, and the file at a
path. -/
structure World where
  env : Environment
  dotEnv : Found
  file : String → Found

/-- The world of a program in a tree of files. -/
def FileTree.world (tree : FileTree) (env : Environment) : World where
  env := env
  dotEnv := tree.findAbove ".env"
  file := tree.find

/-- The lines of a file of variables, if there is one. -/
def Found.lines? : Found → Option (List (Option (List Char)))
  | nothing => none
  | directory => none
  | bytes content => some (DotEnv.byteLines content)
  | text content => some (DotEnv.textLines content)

/-- Sets the variables of the nearest file of variables, if there is one. -/
def World.withDotEnv (w : World) : Except ConfigError World :=
  match w.dotEnv.lines? with
  | none => .ok w
  | some lines =>
    match DotEnv.apply lines w.env with
    | .ok env => .ok { w with env := env }
    | .error .malformed => .error .dotEnv
    | .error .nullCharacter => .error .aborted

/-- A configuration in the making. -/
structure Loader where
  config : Config
  /-- The front of the names of the variables that count, if any do. -/
  scope : Option String
  deriving DecidableEq

namespace Loader

/-- The defaults, and no variables. -/
def start : Loader := ⟨.default, none⟩

def withConfig (l : Loader) (c : Config) : Loader := { l with config := c }

def withDefaults (l : Loader) : Loader := l.withConfig .default

def withDevelopment (l : Loader) : Loader := l.withConfig .development

def withProduction (l : Loader) : Loader := l.withConfig .production

/-- The format with this name, whatever the case of its letters. -/
def format? (name : String) : Option Format :=
  if Text.readsAs name "toml" then some .toml
  else if Text.readsAs name "json" then some .json
  else none

/-- Reads a configuration. -/
def readConfig (format : Format) (content : String) : Except ConfigError Config :=
  match readText Decode.config format content with
  | .ok config => .ok config
  | .error e => .error (.text e)

/-- With the configuration of a text, in place of the one so far. -/
def withString (l : Loader) (content format : String) : Except ConfigError Loader :=
  match format? format with
  | some f => (readConfig f content).map l.withConfig
  | none => .error (.validation ("unsupported configuration format: " ++ format))

/-- With the configuration of a file, in place of the one so far. -/
def withFile (l : Loader) (w : World) (path : String) : Except ConfigError Loader :=
  match w.file path with
  | .nothing => .error (.fileNotFound path)
  | .directory => .error (.unreadable path .directory)
  | .bytes _ => .error (.unreadable path .notText)
  | .text content =>
    match (extension? path).bind format? with
    | some f => (readConfig f content).map l.withConfig
    | none => .error (.validation ("unsupported configuration file format: " ++ path))

/-- With the configuration of a file, if there is one. -/
def withOptionalFile (l : Loader) (w : World) (path : String) : Except ConfigError Loader :=
  match w.file path with
  | .nothing => .ok l
  | _ => l.withFile w path

/-- With variables that begin so, in capitals. -/
def withScope (l : Loader) (scope : String) : Loader :=
  { l with scope := some (Text.capitals scope) }

/-- The configuration with the variables on top of it. -/
def overlaid (l : Loader) (env : Environment) : Except ConfigError Config :=
  match l.scope with
  | some scope => Override.apply scope env l.config
  | none => .ok l.config

/-- The configuration with the variables on top of it, if nothing is wrong with it. -/
def load (l : Loader) (env : Environment) : Except ConfigError Config := do
  let config ← l.overlaid env
  config.validate
  .ok config

/-- The configuration as it stands. -/
def loadUnvalidated (l : Loader) : Config := l.config

def inspect (l : Loader) : String :=
  Text.record "ConfigLoader" [("config", l.config.inspect),
    ("env_prefix", Text.optional (l.scope.map Text.quoted))]

end Loader

end Turnstile
