import SymbolResolver.Codec.Resolution
import SymbolResolver.Files.Path
import SymbolResolver.Files.System

/-!
# Finding and reading snapshots

Snapshots are files with a common ending. Below a directory they are found at any depth, except in
hidden places, and are listed in the order of their paths, name by name.
-/

namespace SymbolResolver

namespace Discovery

open Files

variable {m : Type → Type} [Monad m] [FileSystem m]

/-- The ending of snapshot files. -/
def suffix : String := ".symres.json"

/-- Whether a name belongs to a hidden place. -/
def isHidden (name : String) : Bool := name.toList.head? == some '.'

/-- Whether a file name has the ending of snapshots. -/
def isSnapshotName (name : String) : Bool := suffix.toList.isSuffixOf name.toList

mutual

/-- The snapshots at an entry of a directory, as lists of names. -/
def foundAt (name : String) : Shape → List (List String)
  | .file => if isSnapshotName name then [[name]] else []
  | .directory entries => (foundIn entries).map (name :: ·)

/-- The snapshots among the entries of a directory, as lists of names. -/
def foundIn : List (String × Shape) → List (List String)
  | [] => []
  | (name, shape) :: entries =>
    (if isHidden name then [] else foundAt name shape) ++ foundIn entries

end

/-- The order of paths, name by name. -/
def namesLE (left right : List String) : Bool := (List.compareLex compare left right).isLE

/-- The paths of the snapshots below a directory. -/
def pathsBelow (root : String) (entries : List (String × Shape)) : List String :=
  ((foundIn entries).mergeSort namesLE).map fun names => names.foldl join root

/-- The snapshots that a path stands for: the file itself, or the snapshots below a directory. -/
def discover (path : String) : m (Outcome (List String)) := do
  match ← FileSystem.lookUp path with
  | some .file => return .ok [path]
  | some (.directory entries) => return .ok (pathsBelow path entries)
  | none => return .error (.snapshot "no such file or directory" path)

/-- The snapshot in a text. -/
def parse (path text : String) : Outcome Snapshot :=
  match Json.readText Snapshot.read text with
  | .ok snapshot => .ok snapshot
  | .error error => .error (.snapshot ("failed to parse snapshot: " ++ error.message) path)

/-- The snapshot in a file. -/
def load (path : String) : m (Outcome Snapshot) := do
  match ← FileSystem.readText path with
  | .ok text => return parse path text
  | .error cause => return .error (.snapshot ("failed to read snapshot: " ++ cause) path)

/-- The snapshots in several files. The first failure ends it. -/
def loadAll : List String → m (Outcome (List Snapshot))
  | [] => return .ok []
  | path :: paths => do
    match ← load path with
    | .error error => return .error error
    | .ok snapshot =>
      match ← loadAll paths with
      | .error error => return .error error
      | .ok snapshots => return .ok (snapshot :: snapshots)

end Discovery

end SymbolResolver
