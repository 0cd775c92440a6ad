/-!
# Paths

Paths are texts with slashes between names. A path is shown as it was put together; what it leads to
depends only on its steps.
-/

namespace SymbolResolver

namespace Files

/-- Puts a relative path behind a path. -/
def join (base child : String) : String :=
  if base.toList = [] then child
  else if base.toList.getLast? = some '/' then base ++ child
  else base ++ "/" ++ child

/-- A step along a path. -/
inductive Step
  /-- Stays in a directory. -/
  | stay
  /-- Goes to the enclosing directory. -/
  | up
  /-- Goes to an entry of a directory. -/
  | down (name : String)
deriving DecidableEq, Repr

/-- The step that a name in a path stands for. -/
def Step.ofName (name : String) : Step :=
  if name = "" ∨ name = "." then stay else if name = ".." then up else down name

/-- The texts between slashes. -/
def names : List Char → List (List Char)
  | [] => [[]]
  | char :: chars =>
    if char = '/' then [] :: names chars
    else
      match names chars with
      | [] => [[char]]
      | name :: others => (char :: name) :: others

/-- The steps of a path, and whether it begins at the root. The empty path leads nowhere. -/
def steps? (path : String) : Option (Bool × List Step) :=
  match path.toList with
  | [] => none
  | '/' :: rest => some (true, (names rest).map fun name => Step.ofName (String.ofList name))
  | chars => some (false, (names chars).map fun name => Step.ofName (String.ofList name))

end Files

end SymbolResolver
