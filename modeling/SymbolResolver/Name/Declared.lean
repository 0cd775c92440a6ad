import SymbolResolver.Name.Package
import SymbolResolver.Name.Reference

/-!
# Declared names

The name that a declaration introduces: a package, the simple names from the outermost declaration to
the innermost, and the languages that can see it. The qualified text is kept beside its parts, because
names are compared far more often than they are built.
-/

namespace SymbolResolver

/-- The name of a declaration. -/
structure DeclaredName where
  /-- The package of the declaring file. -/
  package : PackageName
  /-- The simple names, outermost first. -/
  names : List SimpleName
  /-- The languages that see the declaration. -/
  languages : LanguageSet
  /-- The qualified text. -/
  qualified : String
  /-- Every declaration has a name of its own. -/
  names_ne_nil : names ≠ []
deriving Repr

namespace DeclaredName

/-- The qualified text of simple names in a package. -/
def qualify (package : PackageName) (names : List SimpleName) : String :=
  package.append (names.map SimpleName.text)

/-- Puts a declared name together. It needs a simple name and a language that sees it. -/
def make (package : PackageName) (names : List SimpleName) (languages : LanguageSet) :
    Except NameFault DeclaredName :=
  if nonempty : names = [] then .error (.noSimpleNames package.text)
  else if languages.isEmpty then .error (.invisible (qualify package names))
  else .ok ⟨package, names, languages, qualify package names, nonempty⟩

/-- Reads dotted simple names below a package. -/
def parse (package names : String) (languages : LanguageSet) : Except NameFault DeclaredName := do
  let simple ← (Text.segments names).mapM SimpleName.ofText
  make (.ofText package) simple languages

/-- The innermost simple name. -/
def shortName (declared : DeclaredName) : SimpleName :=
  declared.names.getLast declared.names_ne_nil

/-- The segments of the qualified text. -/
def segments (declared : DeclaredName) : List String := Text.segments declared.qualified

/-- Whether a language sees the declaration. -/
def visibleFrom (declared : DeclaredName) (language : Language) : Bool :=
  declared.languages.contains language

/-- Segment-wise beginning. -/
def startsWith (declared : DeclaredName) (stem : String) : Bool :=
  Text.startsWithSegments declared.qualified stem

/-- Segment-wise end. -/
def endsWith (declared : DeclaredName) (tail : String) : Bool :=
  Text.endsWithSegments declared.qualified tail

/-- A declaration nested in this one, with the same visibility. -/
def append (declared : DeclaredName) (name : SimpleName) : DeclaredName where
  package := declared.package
  names := declared.names ++ [name]
  languages := declared.languages
  qualified := Text.appendSegments declared.qualified [name.text]
  names_ne_nil := by simp

/-- The enclosing declaration. A top-level declaration has none. -/
def parent? (declared : DeclaredName) : Option DeclaredName :=
  if declared.names.length < 2 then none
  else (make declared.package declared.names.dropLast declared.languages).toOption

/-- The same declaration with another visibility. -/
def withLanguages (declared : DeclaredName) (languages : LanguageSet) :
    Except NameFault DeclaredName :=
  make declared.package declared.names languages

/-- A reference to the declaration from a language that sees it. -/
def toReference? (declared : DeclaredName) (language : Language) : Option ReferenceName :=
  if declared.visibleFrom language then some (.ofText declared.qualified language) else none

/-- Declared names are equal when their qualified texts and their languages are. -/
instance : BEq DeclaredName where
  beq left right := left.qualified == right.qualified && left.languages == right.languages

theorem beq_def (left right : DeclaredName) :
    (left == right) = (left.qualified == right.qualified && left.languages == right.languages) :=
  rfl

/-- A reference denotes a declaration when the texts agree and its language sees the declaration. -/
def denotedBy (declared : DeclaredName) (reference : ReferenceName) : Bool :=
  declared.qualified == reference.text && declared.visibleFrom reference.language

/-- The qualified text with the languages after it. -/
def display (declared : DeclaredName) : String :=
  declared.qualified ++ " " ++ declared.languages.display

end DeclaredName

/-- Whether the reference denotes a declaration, asked from the place of use. -/
def ReferenceName.denotes (reference : ReferenceName) (declared : DeclaredName) : Bool :=
  declared.denotedBy reference

end SymbolResolver
