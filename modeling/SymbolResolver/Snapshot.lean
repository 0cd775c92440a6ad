import SymbolResolver.Resolution.Resolver

/-!
# Snapshots

A description of source files that stands in for a front end: for every file its package, its imports,
the names it declares and the references it holds. Declarations are only looked at when a source of the
declaration collection is pulled, and an invalid one fails that source.
-/

namespace SymbolResolver

open Lazy Resolution

/-- A declaration of a file. -/
structure SnapshotDeclaration where
  /-- The dotted simple names, outermost first. -/
  names : String
  /-- The languages that see it, if they are not just the language of the file. -/
  languages : Option LanguageSet
deriving DecidableEq, Repr

/-- One source file. -/
structure SnapshotFile where
  /-- The path. -/
  path : String
  /-- The package. -/
  package : PackageName
  /-- The language, if it is named. -/
  language : Option Language
  /-- The import aliases, if they are known. -/
  aliases : Option TextTable
  /-- The single-name imports. -/
  imports : List String
  /-- The declarations. -/
  declarations : List SnapshotDeclaration
  /-- The references. -/
  references : List String
deriving DecidableEq, Repr

/-- A set of source files. -/
structure Snapshot where
  /-- The files. -/
  files : List SnapshotFile
deriving DecidableEq, Repr

/-- The resolved references of a file. -/
structure FileResolution where
  /-- The path of the file. -/
  path : String
  /-- Its references. -/
  summary : Summary
deriving DecidableEq, Repr

namespace SnapshotFile

/-- The language of a file. A file that names none is a Kotlin file. -/
def effectiveLanguage (file : SnapshotFile) : Language := file.language.getD .kotlin

/-- The context in which the references of a file are resolved. -/
def context (file : SnapshotFile) : FileContext :=
  let plain := FileContext.ofPath file.path file.package file.effectiveLanguage
  let aliased := match file.aliases with
    | some aliases => plain.withAliases aliases
    | none => plain
  file.imports.foldl FileContext.withImport aliased

/-- The declared name of a declaration. -/
def declaredName (file : SnapshotFile) (declaration : SnapshotDeclaration) :
    Except NameFault DeclaredName :=
  DeclaredName.parse file.package.text declaration.names
    (declaration.languages.getD (.singleton file.effectiveLanguage))

/-- The declared names of a file, or the first fault among them. -/
def declaredNames (file : SnapshotFile) : Outcome (List DeclaredName) :=
  Outcome.ofName (file.declarations.mapM file.declaredName)

/-- The references of a file. -/
def referenceNames (file : SnapshotFile) : List ReferenceName :=
  file.references.map fun text => .ofText text file.effectiveLanguage

end SnapshotFile

namespace Snapshot

/-- The files of several snapshots. -/
def merge (snapshots : List Snapshot) : Snapshot := ⟨snapshots.flatMap Snapshot.files⟩

/-- Gives a language to the files that name none. -/
def withDefaultLanguage (snapshot : Snapshot) (language : Language) : Snapshot :=
  ⟨snapshot.files.map fun file => { file with language := some (file.language.getD language) }⟩

/-- The source of a file's declarations. Its hint rules out the names of other packages. -/
def fileSource (store : Store Event Payload) (file : SnapshotFile) :
    Source DeclaredName × Store Event Payload :=
  let work := .finish (file.declaredNames.map Payload.declarations)
  let (cell, store) := store.defer work []
  (⟨.normal, cell, some fun declared => declared.package == file.package⟩, store)

/-- The sources of several files. -/
def fileSources :
    Store Event Payload → List SnapshotFile → List (Source DeclaredName) × Store Event Payload
  | store, [] => ([], store)
  | store, file :: files =>
    let (source, store) := fileSource store file
    let (sources, store) := fileSources store files
    (source :: sources, store)

/-- The declarations of a snapshot, with one source for every file. -/
def declarations (snapshot : Snapshot) (world : World) : Collection DeclaredName × World :=
  let (sources, store) := fileSources world.store snapshot.files
  let (collection, store) := Collection.build store sources
  (collection, { world with store := store })

/-- Resolves the references of files one after the other. The first failure ends it. -/
def resolveFiles (resolver : Resolver) :
    List SnapshotFile → World → Ending (List FileResolution) × World
  | [], world => (.finished (.ok []), world)
  | file :: files, world =>
    World.andThen (resolver.resolveAll file.context file.referenceNames world) fun summary world =>
      World.andThen (resolveFiles resolver files world) fun results world =>
        (.finished (.ok (⟨file.path, summary⟩ :: results)), world)

/-- Resolves every reference of a snapshot. -/
def resolveWith (snapshot : Snapshot) (resolver : Resolver) (world : World) :
    Ending (List FileResolution) × World :=
  resolveFiles resolver snapshot.files world

/-- The resolver that a configuration describes, with the declarations of a snapshot. -/
def resolverOf (snapshot : Snapshot) (config : Config) (world : World) : Resolver × World :=
  let (resolver, world) := Resolver.ofConfig config world
  let (declarations, world) := snapshot.declarations world
  ({ resolver with declarations := some declarations }, world)

end Snapshot

end SymbolResolver
