import SymbolResolver.Error

/-!
# Faults of names

The reasons why a name cannot be built.
-/

namespace SymbolResolver

/-- A reason why a name cannot be built. -/
inductive NameFault
  /-- The text is neither a plain nor an escaped identifier. -/
  | notIdentifier (text : String)
  /-- A declared name needs a simple name. -/
  | noSimpleNames (package : String)
  /-- A declared name has to be visible from some language. -/
  | invisible (qualified : String)
  /-- A resource reference needs a type and a name. -/
  | resourceShape (text : String)
  /-- A property without an owner has no accessors. -/
  | noOwner (property : String)
  /-- An escaped property has no accessors. -/
  | escapedProperty (field : String)
  /-- A declaration was asked for, and the name is a reference. -/
  | notDeclaration (text : String)
  /-- A reference was asked for, and the name is a declaration. -/
  | notReference (text : String)
deriving DecidableEq, Repr

namespace NameFault

/-- The text that is shown for a fault. -/
def message : NameFault → String
  | notIdentifier text => "'" ++ text ++ "' is not a valid identifier"
  | noSimpleNames package => "declared name in package '" ++ package ++ "' has no simple names"
  | invisible qualified =>
    "declared name '" ++ qualified ++ "' is not visible from any language"
  | resourceShape text => "resource reference '" ++ text ++ "' must have the form [R.]type.name"
  | noOwner property =>
    "property '" ++ property ++ "' has no owning class to host an accessor"
  | escapedProperty field =>
    "cannot synthesize an accessor for escaped property '" ++ field ++ "'"
  | notDeclaration text => "'" ++ text ++ "' is a reference, not a declaration"
  | notReference text => "'" ++ text ++ "' is a declaration, not a reference"

/-- A fault as an error of the validation kind. -/
def toError (fault : NameFault) : Error := .validation fault.message

end NameFault

/-- Work on names, with its fault as an error. -/
def Outcome.ofName {α : Type} : Except NameFault α → Outcome α
  | .ok value => .ok value
  | .error fault => .error fault.toError

end SymbolResolver
