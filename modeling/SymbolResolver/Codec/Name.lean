import SymbolResolver.Json.Print
import SymbolResolver.Json.Reader
import SymbolResolver.Name.Basic
import SymbolResolver.Name.Generated
import SymbolResolver.Source.File

/-!
# Names as JSON

How names are written and read. Reading checks names in the same way as building them does, and trims
the texts that building trims.
-/

namespace SymbolResolver

open Json (Document Reader)
open Json.Reader (field fieldsOf required defaulted)

/-! ## Languages -/

namespace Language

/-- Written as its tag. -/
def toDocument (language : Language) : Document := .text language.tag

/-- The language of a tag. Only the full tags are read. -/
def ofFullTag? (text : String) : Option Language := all.find? (·.tag == text)

/-- Read from its tag. -/
def read : Reader Language := Reader.tagged ofFullTag?

end Language

namespace LanguageSet

/-- Written as the list of its members. -/
def toDocument (languages : LanguageSet) : Document :=
  .list (languages.toList.map Language.toDocument)

/-- Read from a list in any order. -/
def read : Reader LanguageSet := fun document =>
  (Reader.list Language.read document).map ofList

end LanguageSet

/-! ## Written names -/

namespace SimpleName

/-- Written as its text. -/
def toDocument (name : SimpleName) : Document := .text name.text

/-- Read from a text that has to be an identifier. -/
def read : Reader SimpleName := fun document => do
  Reader.named (ofText (← Reader.text document))

end SimpleName

namespace PackageName

/-- Written as its text. -/
def toDocument (package : PackageName) : Document := .text package.text

/-- Read from a text, or from null for the default package. -/
def read : Reader PackageName := fun document =>
  (Reader.optional Reader.text document).map ofText?

end PackageName

namespace ReferenceName

/-- The fields of a reference. -/
def toEntries (reference : ReferenceName) : List (String × Document) :=
  [("name", .text reference.text), ("language", reference.language.toDocument)]

/-- Written as a record. -/
def toDocument (reference : ReferenceName) : Document := .fields reference.toEntries

/-- Read from its fields. -/
def read : Reader ReferenceName := fun document => do
  let entries ← fieldsOf [field "name" Reader.text, field "language" Language.read] document
  return ofText (← required entries "name" Reader.text)
    (← required entries "language" Language.read)

end ReferenceName

namespace DeclaredName

/-- The fields of a declared name. The qualified text is not among them. -/
def toEntries (declared : DeclaredName) : List (String × Document) :=
  [("package", declared.package.toDocument),
   ("names", .list (declared.names.map SimpleName.toDocument)),
   ("languages", declared.languages.toDocument)]

/-- Written as a record. -/
def toDocument (declared : DeclaredName) : Document := .fields declared.toEntries

/-- Read from its fields, which have to make a declared name. -/
def read : Reader DeclaredName := fun document => do
  let entries ← fieldsOf
    [field "package" PackageName.read, field "names" (Reader.list SimpleName.read),
     field "languages" LanguageSet.read] document
  let package ← defaulted entries "package" PackageName.default PackageName.read
  let names ← required entries "names" (Reader.list SimpleName.read)
  let languages ← required entries "languages" LanguageSet.read
  Reader.named (make package names languages)

end DeclaredName

namespace Name

/-- Written as the record of its kind, with the kind in front. -/
def toDocument : Name → Document
  | declared name => .fields (("kind", .text "declared") :: name.toEntries)
  | reference name => .fields (("kind", .text "reference") :: name.toEntries)

/-- The reader of a kind. -/
def readerOf? (kind : String) : Option (Reader Name) :=
  if kind = "declared" then some fun document => (DeclaredName.read document).map declared
  else if kind = "reference" then some fun document => (ReferenceName.read document).map reference
  else none

/-- Read from the record of its kind. -/
def read : Reader Name := Reader.variant readerOf?

end Name

/-! ## Generated names -/

namespace ResourceName

/-- The fields of a resource name. -/
def toEntries (resource : ResourceName) : List (String × Document) :=
  [("declared", resource.declared.toDocument),
   ("sources", .list (resource.sources.map ReferenceName.toDocument))]

/-- Written as a record. -/
def toDocument (resource : ResourceName) : Document := .fields resource.toEntries

/-- Read from its fields. -/
def read : Reader ResourceName := fun document => do
  let entries ← fieldsOf
    [field "declared" DeclaredName.read, field "sources" (Reader.list ReferenceName.read)] document
  return ⟨← required entries "declared" DeclaredName.read,
    ← required entries "sources" (Reader.list ReferenceName.read)⟩

end ResourceName

namespace AccessorKind

/-- The kind of a tag. -/
def ofTag? (text : String) : Option AccessorKind := [getter, setter].find? (·.tag == text)

/-- Written as its tag. -/
def toDocument (kind : AccessorKind) : Document := .text kind.tag

/-- Read from its tag. -/
def read : Reader AccessorKind := Reader.tagged ofTag?

end AccessorKind

namespace AccessorName

/-- The fields of an accessor name. -/
def toEntries (accessor : AccessorName) : List (String × Document) :=
  [("declared", accessor.declared.toDocument), ("kind", accessor.kind.toDocument),
   ("sources", .list (accessor.sources.map ReferenceName.toDocument))]

/-- Written as a record. -/
def toDocument (accessor : AccessorName) : Document := .fields accessor.toEntries

/-- Read from its fields. -/
def read : Reader AccessorName := fun document => do
  let entries ← fieldsOf
    [field "declared" DeclaredName.read, field "kind" AccessorKind.read,
     field "sources" (Reader.list ReferenceName.read)] document
  return ⟨← required entries "declared" DeclaredName.read,
    ← required entries "kind" AccessorKind.read,
    ← required entries "sources" (Reader.list ReferenceName.read)⟩

end AccessorName

namespace GeneratedName

/-- Written as the record of its kind, with the kind in front. The record of an accessor has a field of
that name as well, so its text holds the key twice. -/
def toDocument : GeneratedName → Document
  | resource name => .fields (("kind", .text "resource") :: name.toEntries)
  | accessor name => .fields (("kind", .text "accessor") :: name.toEntries)

/-- The reader of a kind. -/
def readerOf? (kind : String) : Option (Reader GeneratedName) :=
  if kind = "resource" then some fun document => (ResourceName.read document).map resource
  else if kind = "accessor" then some fun document => (AccessorName.read document).map accessor
  else none

/-- Read from the record of its kind. -/
def read : Reader GeneratedName := Reader.variant readerOf?

end GeneratedName

/-! ## Identities and tables -/

namespace FileId

/-- Written as its text. -/
def toDocument (id : FileId) : Document := .text id.text

/-- Read from any text. -/
def read : Reader FileId := fun document => (Reader.text document).map FileId.mk

end FileId

namespace NodeId

/-- Written as its number. -/
def toDocument (id : NodeId) : Document := .natural id.value

/-- Read from a number below `2 ^ 64`. -/
def read : Reader NodeId := fun document =>
  (Reader.naturalBelow UInt64.size document).map NodeId.mk

end NodeId

/-- Written as a record in the order of its keys. -/
def TextTable.toDocument (table : TextTable) : Document :=
  .fields (table.entries.map fun entry => (entry.1, .text entry.2))

end SymbolResolver
