import SymbolResolver.Name.Simple
import SymbolResolver.Text.Blank
import SymbolResolver.Text.Segments

/-!
# Package names

The namespace of a file: a dotted text, or nothing for files without a package.
-/

namespace SymbolResolver

/-- A dotted namespace. The default package has the empty text. -/
structure PackageName where
  /-- The dotted text. -/
  text : String
deriving DecidableEq, Repr

namespace PackageName

/-- The package of files that name none. -/
def default : PackageName := ⟨""⟩

/-- Reads a package without the blanks around it. A blank text names the default package. -/
def ofText (text : String) : PackageName := ⟨Text.trim text⟩

/-- Reads a package that may be absent. -/
def ofText? : Option String → PackageName
  | some text => ofText text
  | none => default

/-- The package with the given segments. -/
def ofSegments (names : List SimpleName) : PackageName :=
  ⟨Text.appendSegments "" (names.map SimpleName.text)⟩

/-- Whether this is the default package. -/
def isDefault (package : PackageName) : Bool := package.text == ""

/-- The segments, none for the default package. -/
def segments (package : PackageName) : List String := Text.segments package.text

/-- The qualified text of names in this package. -/
def append (package : PackageName) (names : List String) : String :=
  Text.appendSegments package.text names

/-- A package directly inside this one. -/
def child (package : PackageName) (name : SimpleName) : PackageName :=
  ⟨package.append [name.text]⟩

/-- The enclosing package. Only the default package has none. -/
def parent? (package : PackageName) : Option PackageName :=
  if package.isDefault then none else some ⟨(Text.beforeLast? package.text).getD ""⟩

/-- Segment-wise containment. -/
def startsWith (package outer : PackageName) : Bool :=
  Text.startsWithSegments package.text outer.text

/-- Packages are ordered by their texts. -/
instance : Ord PackageName where
  compare left right := compare left.text right.text

end PackageName

end SymbolResolver
