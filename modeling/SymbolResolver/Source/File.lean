import SymbolResolver.Name.Declared
import SymbolResolver.Table
import SymbolResolver.Text.Digest

/-!
# Source files

What is known about a file when its references are resolved: its identity, its package and language,
its import aliases and its single-name imports.
-/

namespace SymbolResolver

/-- The identity of a file. -/
structure FileId where
  /-- The identity as text. -/
  text : String
deriving DecidableEq, Repr

namespace FileId

/-- The identity of the file at a path: half of the digest of the path. -/
def ofPath (path : String) : FileId :=
  ⟨"file:" ++ String.ofList ((Text.sha256 path).toList.take 32)⟩

/-- Identities are ordered by their texts. -/
instance : Ord FileId where
  compare left right := compare left.text right.text

end FileId

/-- The identity of a syntax node within its file, a number below `2 ^ 64`. -/
structure NodeId where
  /-- The number. -/
  value : Nat
deriving DecidableEq, Repr

/-- A syntax node: its identity and the source text it covers. -/
structure SyntaxNode where
  /-- The identity. -/
  id : NodeId
  /-- The source text. -/
  text : String
deriving DecidableEq, Repr

/-- The context in which the references of a file are resolved. -/
structure FileContext where
  /-- The identity of the file. -/
  id : FileId
  /-- The path of the file. -/
  path : String
  /-- The package that the file declares. -/
  package : PackageName
  /-- The language of the file. -/
  language : Language
  /-- Replacements for first segments, if anything is known about aliases. -/
  aliases : Option TextTable
  /-- The qualified single-name imports, in the order of the file. -/
  imports : List String
deriving DecidableEq, Repr

namespace FileContext

/-- The context of a file without aliases and imports. -/
def ofPath (path : String) (package : PackageName) (language : Language) : FileContext :=
  ⟨.ofPath path, path, package, language, none, []⟩

/-- The same file with a table of aliases. -/
def withAliases (file : FileContext) (aliases : TextTable) : FileContext :=
  { file with aliases := some aliases }

/-- The same file with one more alias. -/
def withAlias (file : FileContext) (name target : String) : FileContext :=
  { file with aliases := some ((file.aliases.getD .empty).insert name target) }

/-- The same file with one more import. -/
def withImport (file : FileContext) (imported : String) : FileContext :=
  { file with imports := file.imports ++ [imported] }

end FileContext

end SymbolResolver
