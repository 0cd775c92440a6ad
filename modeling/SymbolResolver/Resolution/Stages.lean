import SymbolResolver.Resolution.Chain

/-!
# The built-in stages

Alias expansion, semantic bindings, explicit imports, declared names and the standard library.
-/

namespace SymbolResolver

namespace Resolution

open Lazy

/-- A built-in stage. -/
inductive StageKind
  /-- Replaces an import alias in front and goes on. -/
  | importAlias
  /-- Asks the semantic bindings about the node. -/
  | semanticBinding
  /-- Answers with a single-name import. -/
  | explicitImport
  /-- Looks among the declarations. -/
  | declarationLookup
  /-- Asks the standard library. -/
  | stdlib
deriving DecidableEq, Repr

namespace StageKind

/-- The usual chain. -/
def defaultChain : List StageKind :=
  [importAlias, semanticBinding, explicitImport, declarationLookup, stdlib]

/-- The tag that names a stage in texts. -/
def tag : StageKind → String
  | importAlias => "import_alias"
  | semanticBinding => "semantic_binding"
  | explicitImport => "explicit_import"
  | declarationLookup => "declaration_lookup"
  | stdlib => "stdlib"

/-- Reads a tag. -/
def ofTag? (text : String) : Option StageKind := defaultChain.find? (·.tag == text)

@[simp] theorem ofTag?_tag (kind : StageKind) : ofTag? kind.tag = some kind := by
  cases kind <;> decide

end StageKind

/-- The request with the alias in front of its reference replaced. An alias is replaced once, whatever
its target begins with. -/
def expandAlias (request : Request) : Request :=
  let target? := do
    let aliases ← request.file.aliases
    let first ← request.reference.firstSegment?
    aliases.get? first
  match target? with
  | some target => request.withReference (request.reference.replaceFirstSegment target)
  | none => request

/-- The error that a failing semantic lookup causes: its own if it is about bindings, and otherwise one
that says where it happened. -/
def bindingError (request : Request) : Error → Error
  | .binding message file reference => .binding message file reference
  | other => .binding other.display request.file.path request.written

/-- What the target of a node means to a language. -/
def boundReference? (language : Language) : BindingValue → Option ReferenceName
  | .qualifiedName text => some (.ofText text language)
  | .declaration declared => declared.toReference? language

/-- The simple name that an import brings in. A wildcard brings in none. -/
def importedName? (imported : String) : Option String :=
  let last := Text.lastSegment imported
  if last = "*" ∨ last = "" then none else some last

/-- The reference with its first segment replaced by the import that brings it in. -/
def importedReference? (request : Request) : Option ReferenceName := do
  let first ← request.reference.firstSegment?
  let imported ← request.file.imports.find? fun imported => importedName? imported == some first
  return request.reference.replaceFirstSegment imported

/-- The references that may denote a declaration: the reference itself, and the one relative to the
package of the file. -/
def candidates (request : Request) : List ReferenceName :=
  let package := request.file.package
  if package.isDefault then [request.reference]
  else
    [request.reference,
      .ofText (package.append request.reference.segments) request.language]

/-- Answers with the first of several references that denotes a declaration. -/
def lookUp (declarations : Collection DeclaredName) (otherwise : Resolving) :
    List ReferenceName → Resolving
  | [] => otherwise
  | candidate :: others =>
    (declarations.first? fun declared => declared.denotedBy candidate).andThen fun found =>
      match found with
      | some _ => Resolving.answer (some candidate)
      | none => lookUp declarations otherwise others

/-- Goes on with the outcome of a semantic lookup. -/
def useConsultation (request : Request) (next : Request → Resolving) : Consultation → Resolving
  | .answer value =>
    match value.bind (boundReference? request.language) with
    | some reference => .answer (some reference)
    | none => next request
  | .failure error => .fail (bindingError request error)
  | .breakOff => .breakOff

namespace StageKind

/-- What a built-in stage does. -/
def intercept : StageKind → Request → (Request → Resolving) → Resolving
  | importAlias, request, next => next (expandAlias request)
  | semanticBinding, request, next =>
    match request.binding, request.node with
    | some binding, some node =>
      .note (.consulted node) (useConsultation request next (binding.consult node))
    | _, _ => next request
  | explicitImport, request, next =>
    match importedReference? request with
    | some reference => .answer (some reference)
    | none => next request
  | declarationLookup, request, next =>
    match request.declarations with
    | some declarations => lookUp declarations (next request) (candidates request)
    | none => next request
  | stdlib, request, next =>
    match request.stdlib request.reference.text with
    | some qualified => .answer (some (.ofText qualified request.language))
    | none => next request

/-- The built-in stage of a kind. -/
def stage (kind : StageKind) : Stage := ⟨kind.tag, fun _ => kind.intercept⟩

end StageKind

end Resolution

end SymbolResolver
