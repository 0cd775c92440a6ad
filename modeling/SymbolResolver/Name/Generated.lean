import SymbolResolver.Name.Declared
import SymbolResolver.Text.Lowercase
import SymbolResolver.Text.Uppercase

/-!
# Generated names

Names that exist only because a framework produces them: resource fields and property accessors. Each
keeps the references it was derived from, and derivation depends on nothing else.
-/

namespace SymbolResolver

/-- A resource field, such as `com.app.R.string.title`. -/
structure ResourceName where
  /-- The name of the field. -/
  declared : DeclaredName
  /-- The namespace root and the resource reference it came from. -/
  sources : List ReferenceName
deriving Repr

namespace ResourceName

/-- The simple name of the class that holds the resources. -/
def namespaceClass : String := "R"

/-- The package of a namespace root, which may name the resource class as its last segment. -/
def rootPackage (root : String) : String :=
  match ['R'].isSuffixOf? root.toList with
  | some rest =>
    if rest = [] ∨ rest.getLast? = some Text.separator then
      String.ofList (Text.dropEndWhile (· == Text.separator) rest)
    else root
  | none => root

/-- The segments of a resource reference without the resource class in front. -/
def resourceParts (resource : String) : List String :=
  match Text.segments resource with
  | first :: rest => if first = namespaceClass then rest else first :: rest
  | [] => []

/-- The field for a resource reference below a namespace root. -/
def derive (root resource : ReferenceName) : Except NameFault ResourceName :=
  match resourceParts resource.text with
  | [kind, name] => do
    let names ← [namespaceClass, kind, name].mapM SimpleName.ofText
    let declared ← DeclaredName.make (.ofText (rootPackage root.text)) names .all
    return ⟨declared, [root, resource]⟩
  | _ => .error (.resourceShape resource.text)

/-- The type of the resource, `string` in `com.app.R.string.title`. -/
def resourceType? (resource : ResourceName) : Option SimpleName := resource.declared.names[1]?

/-- The name of the resource, `title` in `com.app.R.string.title`. -/
def resourceName? (resource : ResourceName) : Option SimpleName := resource.declared.names[2]?

instance : BEq ResourceName where
  beq left right := left.declared == right.declared && left.sources == right.sources

end ResourceName

/-- What an accessor does with its property. -/
inductive AccessorKind
  /-- Reads the property. -/
  | getter
  /-- Writes the property. -/
  | setter
deriving DecidableEq, Repr

/-- The tag that names an accessor kind in texts. -/
def AccessorKind.tag : AccessorKind → String
  | getter => "getter"
  | setter => "setter"

/-- A Java accessor of a Kotlin property, such as `com.app.User.getTitle`. -/
structure AccessorName where
  /-- The name of the accessor. -/
  declared : DeclaredName
  /-- What the accessor does. -/
  kind : AccessorKind
  /-- The property it came from. -/
  sources : List ReferenceName
deriving Repr

namespace AccessorName

/-- A word with its first character in upper case. -/
def capitalize : List Char → List Char
  | [] => []
  | first :: rest => Text.uppercase first ++ rest

/-- What follows `is` in a field that is named like a question: the next character is there and is
not lowercase. -/
def questionRest? (field : List Char) : Option (List Char) :=
  match ['i', 's'].isPrefixOf? field with
  | some (next :: rest) => if Text.isLowercase next then none else some (next :: rest)
  | _ => none

/-- The identifier of an accessor: `title` gives `getTitle` and `setTitle`, and `isOpen` gives `isOpen`
and `setOpen`. -/
def identifier (field : List Char) (kind : AccessorKind) : List Char :=
  match kind, questionRest? field with
  | .getter, some _ => field
  | .setter, some rest => ['s', 'e', 't'] ++ rest
  | .getter, none => ['g', 'e', 't'] ++ capitalize field
  | .setter, none => ['s', 'e', 't'] ++ capitalize field

/-- The accessor of a property, which has to be a member and written as a plain identifier. -/
def derive (property : DeclaredName) (kind : AccessorKind) : Except NameFault AccessorName :=
  match property.parent? with
  | none => .error (.noOwner property.qualified)
  | some owner =>
    let field := property.shortName
    if field.isEscaped then .error (.escapedProperty field.text)
    else do
      let name ← SimpleName.ofText (String.ofList (identifier field.text.toList kind))
      let declared ← (owner.append name).withLanguages (.singleton .java)
      return ⟨declared, kind, [.ofText property.qualified .kotlin]⟩

instance : BEq AccessorName where
  beq left right :=
    left.declared == right.declared && left.kind == right.kind && left.sources == right.sources

end AccessorName

/-- A name that a framework produces. -/
inductive GeneratedName
  /-- A resource field. -/
  | resource (name : ResourceName)
  /-- A property accessor. -/
  | accessor (name : AccessorName)
deriving Repr

namespace GeneratedName

/-- The declared name of what is generated. -/
def declared : GeneratedName → DeclaredName
  | resource name => name.declared
  | accessor name => name.declared

/-- The references that it was derived from. -/
def sources : GeneratedName → List ReferenceName
  | resource name => name.sources
  | accessor name => name.sources

/-- Equality within a kind. -/
def beq : GeneratedName → GeneratedName → Bool
  | resource left, resource right => left == right
  | accessor left, accessor right => left == right
  | _, _ => false

instance : BEq GeneratedName where
  beq := beq

end GeneratedName

end SymbolResolver
