/-!
# Command line arguments

The commands of the program and how they are spelled. Options may stand before or after other arguments,
short flags may be combined, values may be attached, and everything after `--` is taken as it stands.
-/

namespace SymbolResolver

namespace Cli

/-- What the program is asked to do. -/
inductive Command
  /-- Writes a default configuration. -/
  | init (project : Option String) (force : Bool)
  /-- Checks the configuration of a project. -/
  | checkConfig (project : Option String)
  /-- Resolves the references of snapshots. -/
  | resolve (snapshot : String) (project : Option String) (json : Bool)
deriving DecidableEq, Repr

/-- An option: its letter, its word, and whether it takes a value. -/
structure OptionSpec where
  /-- The letter. -/
  letter : Char
  /-- The word. -/
  word : String
  /-- Whether it takes a value. -/
  takesValue : Bool
deriving DecidableEq, Repr

/-- The option for more output, which every command takes. -/
def verbose : OptionSpec := ⟨'v', "verbose", false⟩

/-- The options of a command, by its name. -/
def optionsOf (command : String) : List OptionSpec :=
  if command = "init" then [verbose, ⟨'f', "force", false⟩]
  else if command = "resolve" then [verbose, ⟨'r', "root", true⟩, ⟨'j', "json", false⟩]
  else [verbose]

/-- The names of the commands. -/
def commandNames : List String := ["init", "check-config", "resolve"]

/-- Arguments sorted into options and others. -/
structure Sorted where
  /-- The options with their values, empty for flags. -/
  options : List (String × String)
  /-- The other arguments. -/
  positionals : List String
deriving DecidableEq, Repr

/-- Adds an option. No option may be given twice. -/
def Sorted.addOption (sorted : Sorted) (word value : String) : Option Sorted :=
  if sorted.options.any (·.1 == word) then none
  else some { sorted with options := sorted.options ++ [(word, value)] }

/-- Adds another argument. -/
def Sorted.addPositional (sorted : Sorted) (argument : String) : Sorted :=
  { sorted with positionals := sorted.positionals ++ [argument] }

/-- How an argument is spelled. -/
inductive Spelling
  /-- The mark after which everything is taken as it stands. -/
  | mark
  /-- A word option, with its attached value. -/
  | word (name : List Char) (value : Option (List Char))
  /-- Letters, with a value possibly attached to the last one. -/
  | letters (letters : List Char)
  /-- Anything else. -/
  | plain
deriving DecidableEq, Repr

/-- How an argument is spelled. -/
def spelling (argument : List Char) : Spelling :=
  match argument with
  | ['-', '-'] => .mark
  | '-' :: '-' :: rest =>
    match rest.dropWhile (· != '=') with
    | '=' :: value => .word (rest.takeWhile (· != '=')) (some value)
    | _ => .word rest none
  | '-' :: first :: rest => .letters (first :: rest)
  | _ => .plain

/-- What combined letters ask for: options, and possibly one that still needs a value. -/
def sortLetters (specs : List OptionSpec) :
    List Char → Sorted → Option (Sorted × Option String)
  | [], sorted => some (sorted, none)
  | letter :: letters, sorted =>
    match specs.find? (·.letter == letter) with
    | none => none
    | some spec =>
      if spec.takesValue then
        match letters with
        | [] => some (sorted, some spec.word)
        | '=' :: value => (sorted.addOption spec.word (String.ofList value)).map (·, none)
        | value => (sorted.addOption spec.word (String.ofList value)).map (·, none)
      else (sorted.addOption spec.word "").bind (sortLetters specs letters)

/-- Sorts arguments. The last parameter is an option that still needs a value. -/
def sortArguments (specs : List OptionSpec) :
    List String → Sorted → Option String → Option Sorted
  | [], sorted, none => some sorted
  | [], _, some _ => none
  | argument :: arguments, sorted, some word =>
    match spelling argument.toList with
    | .plain =>
      (sorted.addOption word argument).bind fun sorted => sortArguments specs arguments sorted none
    | _ => none
  | argument :: arguments, sorted, none =>
    match spelling argument.toList with
    | .mark => some (arguments.foldl Sorted.addPositional sorted)
    | .plain => sortArguments specs arguments (sorted.addPositional argument) none
    | .word name value =>
      match specs.find? (·.word.toList == name), value with
      | none, _ => none
      | some spec, some value =>
        if spec.takesValue then
          (sorted.addOption spec.word (String.ofList value)).bind fun sorted =>
            sortArguments specs arguments sorted none
        else none
      | some spec, none =>
        if spec.takesValue then sortArguments specs arguments sorted (some spec.word)
        else
          (sorted.addOption spec.word "").bind fun sorted => sortArguments specs arguments sorted none
    | .letters letters =>
      match sortLetters specs letters sorted with
      | none => none
      | some (sorted, waiting) => sortArguments specs arguments sorted waiting

/-- The command of a name with sorted arguments. -/
def commandOf (name : String) (sorted : Sorted) : Option Command :=
  let given (word : String) : Bool := sorted.options.any (·.1 == word)
  match name, sorted.positionals with
  | "init", [] => some (.init none (given "force"))
  | "init", [project] => some (.init (some project) (given "force"))
  | "check-config", [] => some (.checkConfig none)
  | "check-config", [project] => some (.checkConfig (some project))
  | "resolve", [snapshot] =>
    some (.resolve snapshot (sorted.options.lookup "root") (given "json"))
  | _, _ => none

/-- Skips the options before the command: its name and the arguments after it. -/
def splitCommand : List String → Sorted → Option (String × List String)
  | [], _ => none
  | argument :: arguments, sorted =>
    match spelling argument.toList with
    | .plain => if commandNames.contains argument then some (argument, arguments) else none
    | .mark => none
    | .word name none =>
      if name = verbose.word.toList then
        (sorted.addOption verbose.word "").bind (splitCommand arguments)
      else none
    | .word _ (some _) => none
    | .letters letters =>
      match sortLetters [verbose] letters sorted with
      | some (sorted, none) => splitCommand arguments sorted
      | _ => none

/-- The command that arguments spell, if they spell one. -/
def parse (arguments : List String) : Option Command := do
  let (name, rest) ← splitCommand arguments ⟨[], []⟩
  let sorted ← sortArguments (optionsOf name) rest ⟨[], []⟩ none
  commandOf name sorted

end Cli

end SymbolResolver
