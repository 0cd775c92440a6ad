/-!
# File systems

What is asked of a file system. Every operation that can fail says why in the words of the system.
-/

namespace SymbolResolver

namespace Files

/-- What stands at a place: a regular file, or a directory with its entries. -/
inductive Shape
  /-- A regular file. -/
  | file
  /-- A directory. -/
  | directory (entries : List (String × Shape))
deriving Repr

/-- The result of an operation, or the cause of its failure. -/
abbrev Attempt (α : Type) := Except String α

/-- The operations of a file system. -/
class FileSystem (m : Type → Type) where
  /-- What stands at a path, if anything does. -/
  lookUp : String → m (Option Shape)
  /-- The text of a file. -/
  readText : String → m (Attempt String)
  /-- Makes a directory and the directories around it, unless they are there. -/
  createDirectories : String → m (Attempt Unit)
  /-- Writes a file and replaces what it held. -/
  writeText : String → String → m (Attempt Unit)
  /-- Moves a file into the place of another one. -/
  rename : String → String → m (Attempt Unit)
  /-- The absolute path of the working directory. -/
  workingDirectory : m String

/-- Whether a shape is a regular file. -/
def Shape.isFile : Shape → Bool
  | file => true
  | directory _ => false

end Files

end SymbolResolver
