import SymbolResolver.Codec.Name
import SymbolResolver.Snapshot

/-!
# Settings, snapshots and results as JSON

How configurations, snapshots and the results of resolutions are written and read.
-/

namespace SymbolResolver

open Json (Document Reader)
open Json.Reader (field fieldsOf required defaulted)

namespace Lazy.Priority

/-- Written as its tag. -/
def toDocument (priority : Priority) : Document := .text priority.tag

/-- Read from its tag. -/
def read : Reader Priority := Reader.tagged ofTag?

end Lazy.Priority

namespace Resolution.StageKind

/-- Written as its tag. -/
def toDocument (kind : StageKind) : Document := .text kind.tag

/-- Read from its tag. -/
def read : Reader StageKind := Reader.tagged ofTag?

end Resolution.StageKind

namespace Config

/-- Written as a record. -/
def toDocument (config : Config) : Document :=
  .fields
    [("version", .natural config.version),
     ("default_language", config.defaultLanguage.toDocument),
     ("interceptors", .list (config.stages.map Resolution.StageKind.toDocument)),
     ("stdlib", config.stdlib.toDocument),
     ("cache_results", .boolean config.cacheResults)]

/-- Read from its fields, all of which have to be present. -/
def read : Reader Config := fun document => do
  let version := Reader.naturalBelow UInt32.size
  let stages := Reader.list Resolution.StageKind.read
  let entries ← fieldsOf
    [field "version" version, field "default_language" Language.read,
     field "interceptors" stages, field "stdlib" Reader.table,
     field "cache_results" Reader.boolean] document
  return ⟨← required entries "version" version,
    ← required entries "default_language" Language.read,
    ← required entries "interceptors" stages,
    ← required entries "stdlib" Reader.table,
    ← required entries "cache_results" Reader.boolean⟩

end Config

namespace SnapshotDeclaration

/-- Written as a record. -/
def toDocument (declaration : SnapshotDeclaration) : Document :=
  .fields
    [("names", .text declaration.names),
     ("languages", .optional LanguageSet.toDocument declaration.languages)]

/-- Read from its fields. -/
def read : Reader SnapshotDeclaration := fun document => do
  let languages := Reader.optional LanguageSet.read
  let entries ← fieldsOf [field "names" Reader.text, field "languages" languages] document
  return ⟨← required entries "names" Reader.text, ← defaulted entries "languages" none languages⟩

end SnapshotDeclaration

namespace SnapshotFile

/-- Written as a record. -/
def toDocument (file : SnapshotFile) : Document :=
  .fields
    [("path", .text file.path),
     ("package", file.package.toDocument),
     ("language", .optional Language.toDocument file.language),
     ("aliases", .optional TextTable.toDocument file.aliases),
     ("imports", .texts file.imports),
     ("declarations", .list (file.declarations.map SnapshotDeclaration.toDocument)),
     ("references", .texts file.references)]

/-- Read from its fields. Only the path has to be present. -/
def read : Reader SnapshotFile := fun document => do
  let language := Reader.optional Language.read
  let aliases := Reader.optional Reader.table
  let texts := Reader.list Reader.text
  let declarations := Reader.list SnapshotDeclaration.read
  let entries ← fieldsOf
    [field "path" Reader.text, field "package" PackageName.read, field "language" language,
     field "aliases" aliases, field "imports" texts, field "declarations" declarations,
     field "references" texts] document
  return ⟨← required entries "path" Reader.text,
    ← defaulted entries "package" PackageName.default PackageName.read,
    ← defaulted entries "language" none language,
    ← defaulted entries "aliases" none aliases,
    ← defaulted entries "imports" [] texts,
    ← defaulted entries "declarations" [] declarations,
    ← defaulted entries "references" [] texts⟩

end SnapshotFile

namespace Snapshot

/-- Written as a record. -/
def toDocument (snapshot : Snapshot) : Document :=
  .fields [("files", .list (snapshot.files.map SnapshotFile.toDocument))]

/-- Read from its field, which may be left out. -/
def read : Reader Snapshot := fun document => do
  let files := Reader.list SnapshotFile.read
  let entries ← fieldsOf [field "files" files] document
  return ⟨← defaulted entries "files" [] files⟩

end Snapshot

namespace Resolution

namespace ResolvedReference

/-- Written as a record. -/
def toDocument (pair : ResolvedReference) : Document :=
  .fields [("original", pair.written.toDocument), ("resolved", pair.resolved.toDocument)]

/-- Read from its fields. -/
def read : Reader ResolvedReference := fun document => do
  let entries ← fieldsOf
    [field "original" ReferenceName.read, field "resolved" ReferenceName.read] document
  return ⟨← required entries "original" ReferenceName.read,
    ← required entries "resolved" ReferenceName.read⟩

end ResolvedReference

namespace Summary

/-- Written as a record. -/
def toDocument (summary : Summary) : Document :=
  .fields
    [("resolved", .list (summary.resolved.map ResolvedReference.toDocument)),
     ("unresolved", .list (summary.unresolved.map ReferenceName.toDocument)),
     ("total", .natural summary.total)]

/-- Read from its fields. -/
def read : Reader Summary := fun document => do
  let resolved := Reader.list ResolvedReference.read
  let unresolved := Reader.list ReferenceName.read
  let total := Reader.naturalBelow UInt64.size
  let entries ← fieldsOf
    [field "resolved" resolved, field "unresolved" unresolved, field "total" total] document
  return ⟨← required entries "resolved" resolved, ← required entries "unresolved" unresolved,
    ← required entries "total" total⟩

end Summary

end Resolution

namespace FileResolution

/-- Written as a record. -/
def toDocument (result : FileResolution) : Document :=
  .fields [("path", .text result.path), ("summary", result.summary.toDocument)]

/-- Read from its fields. -/
def read : Reader FileResolution := fun document => do
  let entries ← fieldsOf
    [field "path" Reader.text, field "summary" Resolution.Summary.read] document
  return ⟨← required entries "path" Reader.text,
    ← required entries "summary" Resolution.Summary.read⟩

end FileResolution

end SymbolResolver
