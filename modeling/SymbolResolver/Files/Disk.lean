import SymbolResolver.Files.Path
import SymbolResolver.Files.System

/-!
# File trees

A file system as a value: a tree of directories and files, and a working directory in it. There are no
links, so every place has one absolute location.
-/

namespace SymbolResolver

namespace Files

/-- A file or a directory. -/
inductive Node
  /-- A file with its text, `none` if its bytes spell no text. -/
  | file (content : Option String)
  /-- A directory. -/
  | directory (entries : List (String × Node))
deriving Repr

namespace Node

/-- Replaces the entry of a name, or adds it. -/
def setEntry (name : String) (node : Node) : List (String × Node) → List (String × Node)
  | [] => [(name, node)]
  | entry :: entries =>
    if entry.1 = name then (name, node) :: entries else entry :: setEntry name node entries

/-- What stands at a location. -/
def get? : Node → List String → Option Node
  | node, [] => some node
  | directory entries, name :: location =>
    match entries.lookup name with
    | some child => child.get? location
    | none => none
  | file _, _ :: _ => none

/-- Puts a node at a location inside directories. -/
def put : Node → List String → Node → Node
  | _, [], added => added
  | directory entries, name :: location, added =>
    directory (setEntry name (((entries.lookup name).getD (directory [])).put location added) entries)
  | file content, _ :: _, _ => file content

/-- Removes what stands at a location. -/
def erase : Node → List String → Node
  | node, [] => node
  | directory entries, [name] => directory (entries.filter (·.1 != name))
  | directory entries, name :: location =>
    match entries.lookup name with
    | some child => directory (setEntry name (child.erase location) entries)
    | none => directory entries
  | file content, _ :: _ => file content

mutual

/-- The shape of a node. -/
def shape : Node → Shape
  | file _ => .file
  | directory entries => .directory (entryShapes entries)

/-- The shapes of entries. -/
def entryShapes : List (String × Node) → List (String × Shape)
  | [] => []
  | (name, node) :: entries => (name, node.shape) :: entryShapes entries

end

mutual

/-- The paths of everything below a node. A directory's path ends in a slash. -/
def listing (stem : String) : Node → List String
  | file _ => []
  | directory entries => entryListing stem entries

/-- The paths of entries and of everything below them. -/
def entryListing (stem : String) : List (String × Node) → List String
  | [] => []
  | (name, file content) :: entries =>
    (stem ++ name) :: (listing (stem ++ name) (file content) ++ entryListing stem entries)
  | (name, directory inner) :: entries =>
    (stem ++ name ++ "/") ::
      (listing (stem ++ name ++ "/") (directory inner) ++ entryListing stem entries)

end

end Node

/-- A file tree with a working directory. -/
structure Disk where
  /-- The root directory. -/
  root : Node
  /-- The location of the working directory. -/
  working : List String

namespace Disk

/-- Why a path leads nowhere. -/
inductive Obstacle
  /-- Something on the way is missing. -/
  | missing
  /-- Something on the way is not a directory. -/
  | notDirectory
  /-- A name or the whole path is too long. -/
  | tooLong
  /-- The path holds a character that ends paths. -/
  | illegal
deriving DecidableEq, Repr

/-- The words of the system for an obstacle. -/
def Obstacle.cause : Obstacle → String
  | missing => "No such file or directory"
  | notDirectory => "Not a directory"
  | tooLong => "File name too long"
  | illegal => "file name contained an unexpected NUL byte"

/-- How many bytes a name may have. -/
def maximalNameSize : Nat := 255

/-- How many bytes a path may have. -/
def maximalPathSize : Nat := 4095

/-- Checks that a location is a directory. -/
def enter (root : Node) (location : List String) : Except Obstacle Unit :=
  match root.get? location with
  | some (.directory _) => .ok ()
  | some (.file _) => .error .notDirectory
  | none => .error .missing

/-- The location that steps lead to. Every step starts from a directory, and only the last one may lead
to something that is not there. A name is looked up when it is reached, so a long one is an obstacle
only if the way to it is free. -/
def walk (root : Node) : List String → List Step → Except Obstacle (List String)
  | location, [] => .ok location
  | location, step :: steps => do
    enter root location
    match step with
    | .stay => walk root location steps
    | .up => walk root location.dropLast steps
    | .down name =>
      if maximalNameSize < name.utf8ByteSize then .error .tooLong
      else walk root (location ++ [name]) steps

/-- What rules a path out before its first step. -/
def ruledOut? (path : String) : Option Obstacle :=
  if path.toList.contains '\x00' then some .illegal
  else if maximalPathSize < path.utf8ByteSize then some .tooLong
  else none

/-- Where the steps of a path begin. -/
def start (disk : Disk) (fromRoot : Bool) : List String := if fromRoot then [] else disk.working

/-- The location that a path leads to. -/
def locate (disk : Disk) (path : String) : Except Obstacle (List String) :=
  match ruledOut? path, steps? path with
  | some obstacle, _ => .error obstacle
  | none, some (fromRoot, steps) => walk disk.root (disk.start fromRoot) steps
  | none, none => .error .missing

/-- What stands at a path. -/
def node? (disk : Disk) (path : String) : Option Node :=
  match disk.locate path with
  | .ok location => disk.root.get? location
  | .error _ => none

/-- The text of a file. -/
def readText (disk : Disk) (path : String) : Attempt String :=
  match disk.locate path with
  | .error obstacle => .error obstacle.cause
  | .ok location =>
    match disk.root.get? location with
    | some (.file (some content)) => .ok content
    | some (.file none) => .error "stream did not contain valid UTF-8"
    | some (.directory _) => .error "Is a directory"
    | none => .error "No such file or directory"

/-- Writes a file with a text, or with bytes that spell none. -/
def write (disk : Disk) (path : String) (content : Option String) : Attempt Unit × Disk :=
  match disk.locate path with
  | .error obstacle => (.error obstacle.cause, disk)
  | .ok location =>
    match disk.root.get? location with
    | some (.directory _) => (.error "Is a directory", disk)
    | _ => (.ok (), { disk with root := disk.root.put location (.file content) })

/-- Makes a directory at a location inside a directory, unless it is there. -/
def makeAt (root : Node) (location : List String) : Attempt Unit × Node :=
  match root.get? location with
  | some (.directory _) => (.ok (), root)
  | some (.file _) => (.error "File exists", root)
  | none => (.ok (), root.put location (.directory []))

/-- Makes the directory at the end of steps, given the reversed steps. If something on the way is
missing, the directory around it is made first, and it stays even if the rest fails. -/
def makeDirectory (root : Node) (origin : List String) : List Step → Attempt Unit × Node
  | [] => (.ok (), root)
  | last :: reversed =>
    match walk root origin (last :: reversed).reverse with
    | .ok location => makeAt root location
    | .error .missing =>
      match makeDirectory root origin reversed with
      | (.error cause, around) => (.error cause, around)
      | (.ok (), around) =>
        match walk around origin (last :: reversed).reverse with
        | .ok location => makeAt around location
        | .error obstacle => (.error obstacle.cause, around)
    | .error obstacle => (.error obstacle.cause, root)

/-- Makes a directory and the directories around it, unless they are there. -/
def createDirectories (disk : Disk) (path : String) : Attempt Unit × Disk :=
  match ruledOut? path, steps? path with
  | some obstacle, _ => (.error obstacle.cause, disk)
  | none, none => (.ok (), disk)
  | none, some (fromRoot, steps) =>
    let (result, root) := makeDirectory disk.root (disk.start fromRoot) steps.reverse
    (result, { disk with root := root })

/-- Moves a file into the place of another one. -/
def rename (disk : Disk) (source target : String) : Attempt Unit × Disk :=
  match disk.locate source, disk.locate target with
  | .ok sourceLocation, .ok targetLocation =>
    match disk.root.get? sourceLocation, disk.root.get? targetLocation with
    | none, _ => (.error "No such file or directory", disk)
    | some (.directory _), _ => (.error "Is a directory", disk)
    | some (.file _), some (.directory _) => (.error "Is a directory", disk)
    | some moved, _ =>
      (.ok (), { disk with root := (disk.root.erase sourceLocation).put targetLocation moved })
  | .error obstacle, _ => (.error obstacle.cause, disk)
  | _, .error obstacle => (.error obstacle.cause, disk)

/-- Removes what stands at a path. -/
def remove (disk : Disk) (path : String) : Disk :=
  match disk.locate path with
  | .ok location => { disk with root := disk.root.erase location }
  | .error _ => disk

/-- The absolute path of a location. -/
def pathOf (location : List String) : String := "/" ++ "/".intercalate location

end Disk

/-- A file tree that changes is a file system. -/
instance : FileSystem (StateM Disk) where
  lookUp path disk := ((disk.node? path).map Node.shape, disk)
  readText path disk := (disk.readText path, disk)
  createDirectories path disk := disk.createDirectories path
  writeText path content disk := disk.write path (some content)
  rename source target disk := disk.rename source target
  workingDirectory disk := (Disk.pathOf disk.working, disk)

end Files

end SymbolResolver
