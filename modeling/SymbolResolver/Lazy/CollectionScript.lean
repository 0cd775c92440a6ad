import SymbolResolver.Lazy.Recipe
import SymbolResolver.Lazy.Shelf

/-!
# Scripts over lazy collections

A script builds collections from sources with fixed courses, derives views and unions from them, and
reads them. Elements are compared by their keys alone, so that it shows which of several equal
elements a collection keeps.
-/

namespace SymbolResolver

namespace Lazy

namespace CollectionScript

/-- An element: the key that it is compared by, and where it comes from. -/
structure Element where
  /-- The key. -/
  key : String
  /-- The origin, which comparison ignores. -/
  origin : String
deriving Repr

/-- Elements are equal when their keys are. -/
instance : BEq Element where
  beq left right := left.key == right.key

/-- What a source of a new collection is made of. -/
inductive SourceSpec
  /-- A list that is known. -/
  | values (items : List Element)
  /-- A computation of a list, with a key stem that all its elements share if there is a hint. -/
  | computed (recipe : Recipe) (items : List Element) (hint : Option String)
  /-- A list that the script has named before, with an optional hint. -/
  | feed (name : String) (hint : Option String)
deriving Repr

/-- A test on elements. Every part that is given has to hold. -/
structure Test where
  /-- The key. -/
  key : Option String
  /-- The end of the key. -/
  suffix : Option String
  /-- The origin. -/
  origin : Option String
deriving Repr

/-- Whether an element passes a test. -/
def Test.passes (test : Test) (element : Element) : Bool :=
  test.key.all (· == element.key) &&
    test.suffix.all (fun suffix => suffix.toList.isSuffixOf element.key.toList) &&
    test.origin.all (· == element.origin)

/-- What a reading step asks. -/
inductive Query
  /-- All members. -/
  | materialize
  /-- The number of members. -/
  | size
  /-- Whether there are none. -/
  | isEmpty
  /-- Membership of a key. -/
  | contains (key : String)
  /-- The first member that passes a test. -/
  | first (test : Test)
deriving Repr

/-- One step of a script. -/
inductive Step
  /-- Names a computation of a list. -/
  | feed (name : String) (recipe : Recipe) (items : List Element)
  /-- A new collection. -/
  | build (handle : String) (sources : List (Priority × SourceSpec))
  /-- The elements whose keys start with a stem, without it. -/
  | strip (handle origin stem : String)
  /-- The elements whose keys start with a capital letter. -/
  | classes (handle origin : String)
  /-- The union of two collections. -/
  | chain (handle left right : String)
  /-- A second handle on a collection. -/
  | clone (handle origin : String)
  /-- Gives a handle up. -/
  | drop (handle : String)
  /-- Opens a gate. -/
  | openGate (gate : String)
  /-- Reads a collection, and gives up when nothing can make progress. -/
  | read (handle : String) (query : Query)
deriving Repr

/-- What a step answers. -/
inductive Reply
  /-- Nothing. -/
  | done
  /-- The outcome of a query. -/
  | outcome (outcome : Outcome (Finding Element))
  /-- There is no outcome yet. -/
  | pending

/-- The values of a script's store: lists of elements. -/
abbrev Lists := List Element

/-- The state of a script. -/
abbrev Session := Shelf Mark Lists Element

/-- The element without a key stem, if its key starts with it. -/
def stripped? (stem : String) (element : Element) : Option Element :=
  (stem.toList.isPrefixOf? element.key.toList).map fun rest =>
    { element with key := String.ofList rest }

/-- The element, if its key starts with a capital letter. -/
def capitalized? (element : Element) : Option Element :=
  if element.key.toList.head?.any Char.isUpper then some element else none

/-- The hint that all elements of a source share a key stem. -/
def stemHint (stem : String) (element : Element) : Bool :=
  stem.toList.isPrefixOf element.key.toList

/-- The reading that a query asks for. -/
def Query.reading : Query → Lazy.Query Element
  | materialize => .materialize
  | size => .size
  | isEmpty => .isEmpty
  | contains key => .contains ⟨key, ""⟩
  | first test => .first test.passes

/-- The source that a specification registers. -/
def SourceSpec.source : SourceSpec → Lazy.SourceSpec Mark Lists Element
  | values items => .values items
  | computed recipe items hint => .computed (recipe.work items) [] (hint.map stemHint)
  | feed name hint => .feed name (hint.map stemHint)

namespace Session

/-- A script that has not done anything. -/
def initial : Session := .empty

/-- The move that a step makes. -/
def move : Step → ShelfMove Mark Lists Element
  | .feed name recipe items => .feed name (recipe.work items) []
  | .build handle specs => .build handle (specs.map fun (priority, spec) => (priority, spec.source))
  | .strip handle origin stem => .filterMap handle origin fun item => .finish (stripped? stem item)
  | .classes handle origin => .filterMap handle origin fun item => .finish (capitalized? item)
  | .chain handle left right => .chain handle left right
  | .clone handle origin => .clone handle origin
  | .drop handle => .drop handle
  | .openGate gate => .turn (.openGate gate)
  | .read handle query => .read handle query.reading

/-- What becomes of the reading of a step: it gives up when it has to wait. -/
def leave (session : Session) : Step → List (ShelfMove Mark Lists Element)
  | .read _ _ => [.turn (.drop session.readings.length)]
  | _ => []

/-- What a step answers, given the state after its move. -/
def answer (session after : Session) : Reply :=
  match after.readings[session.readings.length]? with
  | some (.finished outcome) => .outcome outcome
  | some _ => .pending
  | none => .done

/-- One step: what it changes, everything that can happen afterwards, and what it answers. -/
def step (scheduling : Scheduling) (session : Session) (taken : Step) : Session × Reply :=
  let after := session.perform scheduling (move taken)
  (after.performAll scheduling (leave session taken ++ [.turn .settle]), answer session after)

/-- The states and answers after each step of a script. -/
def run (scheduling : Scheduling) : Session → List Step → List (Session × Reply)
  | _, [] => []
  | session, taken :: steps =>
    let (next, reply) := session.step scheduling taken
    (next, reply) :: run scheduling next steps

end Session

end CollectionScript

end Lazy

end SymbolResolver
