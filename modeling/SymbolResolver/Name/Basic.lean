import SymbolResolver.Name.Declared

/-!
# Names

Either side of a pair of declaration and use. Comparison across the two kinds asks whether the
reference denotes the declaration.
-/

namespace SymbolResolver

/-- A declared name or a reference to one. -/
inductive Name
  /-- The name of a declaration. -/
  | declared (name : DeclaredName)
  /-- A name at a place of use. -/
  | reference (name : ReferenceName)
deriving Repr

namespace Name

/-- The qualified or written text. -/
def text : Name → String
  | declared name => name.qualified
  | reference name => name.text

/-- The segments of the text. -/
def segments : Name → List String
  | declared name => name.segments
  | reference name => name.segments

/-- The text that is shown for a name. -/
def display : Name → String
  | declared name => name.display
  | reference name => name.display

/-- The declared name, if this is one. -/
def asDeclared? : Name → Option DeclaredName
  | declared name => some name
  | reference _ => none

/-- The reference, if this is one. -/
def asReference? : Name → Option ReferenceName
  | declared _ => none
  | reference name => some name

/-- The declared name, or the reason why there is none. -/
def toDeclared : Name → Except NameFault DeclaredName
  | declared name => .ok name
  | reference name => .error (.notDeclaration name.text)

/-- The reference, or the reason why there is none. -/
def toReference : Name → Except NameFault ReferenceName
  | declared name => .error (.notReference name.qualified)
  | reference name => .ok name

/-- Equality within a kind, and denotation across the kinds. -/
def beq : Name → Name → Bool
  | declared left, declared right => left == right
  | reference left, reference right => left == right
  | declared name, reference use => name.denotedBy use
  | reference use, declared name => name.denotedBy use

instance : BEq Name where
  beq := beq

/-- What a name contributes to a hash: its text alone, which equal names share. -/
def hashKey : Name → String := text

/-- What a name contributes to the hash of its own kind. -/
inductive KindKey
  /-- The text and the languages of a declared name. -/
  | declared (text : String) (languages : LanguageSet)
  /-- The text and the language of a reference. -/
  | reference (text : String) (language : Language)
deriving DecidableEq, Repr

/-- The fields that the equality within a kind looks at. -/
def kindKey : Name → KindKey
  | declared name => .declared name.qualified name.languages
  | reference name => .reference name.text name.language

end Name

end SymbolResolver
