import SymbolResolver.Source.File

/-!
# Lookups

What a front end answers about its files: the declarations that syntax nodes refer to, and the standard
library names that need no import.
-/

namespace SymbolResolver

/-- The target of a reference, as a front end knows it. -/
inductive BindingValue
  /-- A declaration. -/
  | declaration (declared : DeclaredName)
  /-- A qualified name. -/
  | qualifiedName (text : String)
deriving Repr

/-- How a semantic lookup ends. -/
inductive Consultation
  /-- With a target, or without knowing one. -/
  | answer (value : Option BindingValue)
  /-- With an error. -/
  | failure (error : Error)
  /-- Without an outcome. -/
  | breakOff
deriving Repr

/-- The semantic bindings of a front end. -/
structure Binding where
  /-- The lookup of the target of a node. -/
  consult : SyntaxNode → Consultation

/-- Standard library names: from a name as written to its qualified name. -/
abbrev StdlibLookup := String → Option String

namespace StdlibLookup

/-- The lookup that knows no names. -/
def nothing : StdlibLookup := fun _ => none

/-- The lookup in a table. -/
def ofTable (table : TextTable) : StdlibLookup := table.get?

end StdlibLookup

end SymbolResolver
