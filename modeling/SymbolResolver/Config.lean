import SymbolResolver.Resolution.Stages

/-!
# Configurations

The settings of a resolver: its stages in order, the standard library table, and whether answers are
kept. A configuration that can be read may still be unusable, which `Config.validate` finds out.
-/

namespace SymbolResolver

open Resolution

/-- The settings of a resolver. -/
structure Config where
  /-- The version of the format, a number below `2 ^ 32`. -/
  version : Nat
  /-- The language of files that name none. -/
  defaultLanguage : Language
  /-- The stages in the order they run. -/
  stages : List StageKind
  /-- Standard library names, short to qualified. -/
  stdlib : TextTable
  /-- Whether answers are kept. -/
  cacheResults : Bool
deriving DecidableEq, Repr

namespace Config

/-- The standard library names that are known without any settings. -/
def defaultStdlib : TextTable :=
  .ofList
    [("Any", "kotlin.Any"), ("Boolean", "kotlin.Boolean"), ("Int", "kotlin.Int"),
     ("Long", "kotlin.Long"), ("String", "kotlin.String"), ("Unit", "kotlin.Unit"),
     ("List", "kotlin.collections.List"), ("Map", "kotlin.collections.Map"),
     ("Set", "kotlin.collections.Set"), ("MutableList", "kotlin.collections.MutableList"),
     ("Object", "java.lang.Object"), ("Override", "java.lang.Override")]

/-- The settings of a project without a configuration of its own. -/
def default : Config := ⟨1, .kotlin, StageKind.defaultChain, defaultStdlib, true⟩

/-- Why a configuration cannot be used. -/
inductive Fault
  /-- The format has another version. -/
  | version (number : Nat)
  /-- A stage comes twice. -/
  | repeated (kind : StageKind)
  /-- A standard library name is empty, or stands for nothing. -/
  | emptySide (short : String)
deriving DecidableEq, Repr

/-- The text that is shown for a fault. -/
def Fault.message : Fault → String
  | version number => "unsupported config version " ++ toString number
  | repeated kind => "interceptor '" ++ kind.tag ++ "' is listed twice"
  | emptySide short => "stdlib entry '" ++ short ++ "' has an empty side"

/-- The first stage that has come before. -/
def firstRepeated? : List StageKind → List StageKind → Option StageKind
  | _, [] => none
  | seen, kind :: kinds =>
    if seen.contains kind then some kind else firstRepeated? (kind :: seen) kinds

/-- The first reason why a configuration cannot be used, if there is one. -/
def fault? (config : Config) : Option Fault :=
  if config.version ≠ 1 then some (.version config.version)
  else
    match firstRepeated? [] config.stages with
    | some kind => some (.repeated kind)
    | none =>
      (config.stdlib.entries.find? fun entry => entry.1 == "" || entry.2 == "").map fun entry =>
        .emptySide entry.1

/-- Checks what reading a configuration does not. -/
def validate (config : Config) : Outcome Unit :=
  match config.fault? with
  | some fault => .error (.config fault.message)
  | none => .ok ()

end Config

end SymbolResolver
