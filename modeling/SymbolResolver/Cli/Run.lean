import SymbolResolver.Cli.Arguments
import SymbolResolver.Project.ConfigFile
import SymbolResolver.Project.Discovery

/-!
# Running commands

What each command does on a file system, and what it prints.
-/

namespace SymbolResolver

namespace Cli

open Files Resolution

variable {m : Type → Type} [Monad m] [FileSystem m]

/-- The path of a project, which is the working directory if none is given. -/
def projectPath : Option String → m String
  | some path => pure path
  | none => FileSystem.workingDirectory

/-- A text with a line break after every line. -/
def lines (texts : List String) : String := String.join (texts.map (· ++ "\n"))

/-- Writes the default configuration. One that is there is only replaced by force. -/
def runInit (project : Option String) (force : Bool) : m (Outcome String) := do
  let root ← projectPath project
  let file := ConfigFile.path root
  if (← FileSystem.lookUp file).isSome && !force then
    return .ok (lines ["Configuration already exists at " ++ file])
  else
    match ← ConfigFile.save root .default with
    | .error error => return .error error
    | .ok () => return .ok (lines ["Wrote " ++ file])

/-- What is printed about a usable configuration. -/
def configReport (config : Config) : String :=
  lines
    ["Configuration OK",
     "  Interceptors: " ++ " -> ".intercalate (config.stages.map StageKind.tag),
     "  Stdlib names: " ++ toString config.stdlib.size,
     "  Cache:        " ++ (if config.cacheResults then "on" else "off")]

/-- Checks the configuration of a project. -/
def runCheckConfig (project : Option String) : m (Outcome String) := do
  let root ← projectPath project
  return (← ConfigFile.load root).map configReport

/-- What is printed about a file. -/
def fileReport (result : FileResolution) : List String :=
  let summary := result.summary
  (result.path ++ " (" ++ toString summary.resolved.length ++ "/" ++ toString summary.total ++
      " resolved)") ::
    summary.resolved.map (fun pair =>
      "  " ++ pair.written.display ++ " -> " ++ pair.resolved.display) ++
    summary.unresolved.map fun reference => "  " ++ reference.display ++ " (unresolved)"

/-- What is printed about resolved files. -/
def resolutionReport (json : Bool) (results : List FileResolution) : String :=
  if json then lines [(Json.Document.list (results.map FileResolution.toDocument)).pretty]
  else lines (results.flatMap fileReport)

/-- Resolves the references of a snapshot with a configuration. -/
def resolveSnapshot (config : Config) (snapshot : Snapshot) : Outcome (List FileResolution) :=
  let full := snapshot.withDefaultLanguage config.defaultLanguage
  let (resolver, world) := full.resolverOf config .empty
  match (full.resolveWith resolver world).1 with
  | .finished outcome => outcome
  | .brokenOff | .waiting => .error .brokenOff

/-- Resolves the references of the snapshots at a path. The configuration is read first, then the
snapshots are found, then they are read. -/
def runResolve (snapshot : String) (project : Option String) (json : Bool) :
    m (Outcome String) := do
  let root ← projectPath project
  match ← ConfigFile.load root with
  | .error error => return .error error
  | .ok config =>
    match ← Discovery.discover snapshot with
    | .error error => return .error error
    | .ok paths =>
      match ← Discovery.loadAll paths with
      | .error error => return .error error
      | .ok snapshots =>
        return (resolveSnapshot config (.merge snapshots)).map (resolutionReport json)

/-- Runs a command: what it prints, or why it failed. -/
def run : Command → m (Outcome String)
  | .init project force => runInit project force
  | .checkConfig project => runCheckConfig project
  | .resolve snapshot project json => runResolve snapshot project json

end Cli

end SymbolResolver
