import SymbolResolver.Codec.Resolution
import SymbolResolver.Files.Path
import SymbolResolver.Files.System

/-!
# Configuration files

A project keeps its configuration in a hidden directory. A project without one is resolved with the
default settings. A configuration is written beside its place and then moved there, so that nobody
reads half of one.
-/

namespace SymbolResolver

namespace ConfigFile

open Files

variable {m : Type → Type} [Monad m] [FileSystem m]

/-- The directory that holds the settings of a project. -/
def directory (project : String) : String := join project ".symres"

/-- The file that holds the configuration of a project. -/
def path (project : String) : String := join (directory project) "config.json"

/-- The file that a configuration is written to before it takes its place. -/
def stagedPath (project : String) : String := join (directory project) "config.tmp"

/-- The error of an operation on a configuration file. -/
def accessError (action path cause : String) : Error :=
  .config ("cannot " ++ action ++ " resolver config at " ++ path ++ ": " ++ cause)

/-- The configuration in a text. It has to be readable and usable. -/
def parse (path text : String) : Outcome Config :=
  match Json.readText Config.read text with
  | .error error => .error (accessError "parse" path error.message)
  | .ok config => config.validate.map fun _ => config

/-- The configuration of a project. -/
def load (project : String) : m (Outcome Config) := do
  let file := path project
  match ← FileSystem.lookUp file with
  | none => return .ok .default
  | some _ =>
    match ← FileSystem.readText file with
    | .error cause => return .error (accessError "read" file cause)
    | .ok text => return parse file text

/-- Goes on after an operation on a configuration file, or ends with its error. -/
def attempting (action path : String) (operation : m (Attempt Unit)) (next : m (Outcome Unit)) :
    m (Outcome Unit) := do
  match ← operation with
  | .error cause => return .error (accessError action path cause)
  | .ok () => next

/-- Stores a configuration for a project, if it is usable. -/
def save (project : String) (config : Config) : m (Outcome Unit) :=
  match config.validate with
  | .error error => pure (.error error)
  | .ok () =>
    let folder := directory project
    let staged := stagedPath project
    let file := path project
    attempting "create the directory for" folder (FileSystem.createDirectories folder)
      (attempting "stage" staged (FileSystem.writeText staged config.toDocument.pretty)
        (attempting "replace" file (FileSystem.rename staged file) (pure (.ok ()))))

end ConfigFile

end SymbolResolver
