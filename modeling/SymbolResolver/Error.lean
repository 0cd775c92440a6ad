/-!
# Errors

What can go wrong while names are built, computations run, files are read and references are
resolved. A settled computation hands the same error to everyone who asks for its outcome, so errors
are plain values.
-/

namespace SymbolResolver

/-- A failure, by the part of the work that failed. -/
inductive Error
  /-- A value does not have the required form. -/
  | validation (message : String)
  /-- A semantic lookup failed while a reference of a file was resolved. -/
  | binding (message file reference : String)
  /-- A computation ended with an error of its own. -/
  | computation (message : String)
  /-- A computation ended without an outcome. -/
  | cancelled (message : String)
  /-- A configuration cannot be used, read or written. -/
  | config (message : String)
  /-- A snapshot cannot be found or read. -/
  | snapshot (message path : String)
deriving DecidableEq, Repr

namespace Error

/-- The text that is shown for an error. -/
def display : Error → String
  | validation message => "validation error: " ++ message
  | binding message file reference =>
    "binding error: " ++ message ++ " (file: " ++ file ++ ", reference: " ++ reference ++ ")"
  | computation message => "computation failed: " ++ message
  | cancelled message => "computation cancelled: " ++ message
  | config message => "config error: " ++ message
  | snapshot message path => "snapshot error: " ++ message ++ " (path: " ++ path ++ ")"

/-- Whether a value of the wrong form was the reason. -/
def isValidation : Error → Bool
  | validation _ => true
  | _ => false

/-- How a computation that breaks off settles. -/
def brokenOff : Error := cancelled "deferred computation panicked"

end Error

/-- The result of work that can fail. -/
abbrev Outcome (α : Type) := Except Error α

end SymbolResolver
