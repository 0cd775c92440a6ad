import SymbolResolver.Lazy.Collection
import SymbolResolver.Source.Lookup
import SymbolResolver.Text.Quoted

/-!
# Requests

What a resolution stage sees: the file, the reference in its current form, and the lookups that are at
hand. Stages pass on changed copies; the text that a request began with is kept beside the reference.
-/

namespace SymbolResolver

namespace Resolution

open Lazy

/-- A reference on its way through the stages. -/
structure Request where
  /-- The file that holds the reference. -/
  file : FileContext
  /-- The reference in its current form. -/
  reference : ReferenceName
  /-- The text at the beginning. -/
  written : String
  /-- The standard library. -/
  stdlib : StdlibLookup
  /-- The semantic bindings, if there are any. -/
  binding : Option Binding
  /-- The node of the reference, if the request came from one. -/
  node : Option SyntaxNode
  /-- The known declarations, if there are any. -/
  declarations : Option (Collection DeclaredName)

namespace Request

/-- A request for a text in a file. -/
def ofText (file : FileContext) (text : String) (language : Language) (stdlib : StdlibLookup) :
    Request :=
  let reference := ReferenceName.ofText text language
  ⟨file, reference, reference.text, stdlib, none, none, none⟩

/-- The request with its reference in another form. -/
def withReference (request : Request) (reference : ReferenceName) : Request :=
  { request with reference := reference }

/-- The language of the reference. -/
def language (request : Request) : Language := request.reference.language

/-- The word for a language in the form shown for inspection. -/
def languageWord : Language → String
  | .java => "Java"
  | .kotlin => "Kotlin"

/-- The word for a truth value. -/
def truthWord (holds : Bool) : String := if holds then "true" else "false"

/-- The text that is shown for a request. -/
def display (request : Request) : String :=
  let node := match request.node with
    | some node => "Some(NodeId(" ++ toString node.id.value ++ "))"
    | none => "None"
  "ResolutionPacket \x7b file: " ++ Text.quoted request.file.path ++
    ", reference: ReferenceName \x7b name: " ++ Text.quoted request.reference.text ++
    ", language: " ++ languageWord request.language ++
    " \x7d, original: " ++ Text.quoted request.written ++
    ", binding: " ++ truthWord request.binding.isSome ++ ", node: " ++ node ++
    ", declarations: " ++ truthWord request.declarations.isSome ++ " \x7d"

end Request

/-- The answer to a request: what it refers to, if that is known. -/
abbrev Answer := Option ReferenceName

/-- A note about what happened during a resolution. -/
inductive Event
  /-- The semantic bindings were asked about a node. -/
  | consulted (node : SyntaxNode)
  /-- A probe stage was entered. -/
  | probed (label : String) (position remaining : Nat) (current written : String)
      (language : Language)
deriving DecidableEq, Repr

/-- The values of a resolver's cells: the lists of declaration sources, and answers. -/
inductive Payload
  /-- The declarations of a source. -/
  | declarations (items : List DeclaredName)
  /-- The answer to a request. -/
  | answer (answer : Answer)
deriving Repr

/-- Declarations are kept among the payloads. -/
instance : Listed Payload DeclaredName where
  wrap := .declarations
  unwrap
    | .declarations items => items
    | .answer _ => []
  unwrap_wrap _ := rfl

/-- The answer that a payload holds. -/
def Payload.toAnswer : Payload → Answer
  | answer found => found
  | declarations _ => none

@[simp] theorem Payload.toAnswer_answer (found : Answer) : (answer found).toAnswer = found := rfl

/-- The course of a resolution. -/
abbrev Resolving := Computation Event Payload (Outcome Answer)

/-- Ends a resolution with an answer. -/
def Resolving.answer (answer : Answer) : Resolving := .finish (.ok answer)

/-- Ends a resolution with an error. -/
def Resolving.fail (error : Error) : Resolving := .finish (.error error)

end Resolution

end SymbolResolver
