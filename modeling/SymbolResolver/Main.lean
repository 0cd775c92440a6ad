import SymbolResolver.Cli.Run

/-!
# The program

Runs commands on the file system of the machine. Output goes to the standard output and errors to the
standard error; the exit code is 2 for arguments that spell no command and 1 for a command that fails.
-/

namespace SymbolResolver

namespace Program

open Files

/-- The result of an action, with the cause of its failure in the words of the system. -/
def attempt {α : Type} (action : IO α) : IO (Attempt α) := do
  try
    return .ok (← action)
  catch failure => return .error (toString failure)

/-- What stands at a path below the working directory, or at an absolute path. -/
partial def shapeAt (path : String) : IO (Option Shape) := do
  let place := (← IO.currentDir) / path
  if ← place.isDir then
    let entries ← place.readDir
    let shapes ← entries.toList.mapM fun entry => do
      return (← shapeAt (entry.path.toString)).map (entry.fileName, ·)
    return some (.directory (shapes.filterMap id))
  else if ← place.pathExists then return some .file
  else return none

/-- The file system of the machine. The empty path leads nowhere. -/
instance : FileSystem IO where
  lookUp path := if path.isEmpty then return none else shapeAt path
  readText path := attempt (IO.FS.readFile path)
  createDirectories path := attempt (IO.FS.createDirAll path)
  writeText path content := attempt (IO.FS.writeFile path content)
  rename source target := attempt (IO.FS.rename source target)
  workingDirectory := do return (← IO.currentDir).toString

/-- How to call the program. -/
def usage : String :=
  "Usage: symres [-v] init [PATH] [-f]\n" ++
  "       symres [-v] check-config [PATH]\n" ++
  "       symres [-v] resolve SNAPSHOT [-r ROOT] [-j]\n"

/-- Runs the command that arguments spell, and gives the exit code. -/
def execute (arguments : List String) : IO UInt32 := do
  match Cli.parse arguments with
  | none =>
    (← IO.getStderr).putStr usage
    return 2
  | some command =>
    match ← (Cli.run command : IO (Outcome String)) with
    | .ok output =>
      (← IO.getStdout).putStr output
      return 0
    | .error error =>
      (← IO.getStderr).putStr ("Error: " ++ error.display ++ "\n")
      return 1

end Program

end SymbolResolver

/-- The entry point. -/
def main (arguments : List String) : IO UInt32 :=
  SymbolResolver.Program.execute arguments
