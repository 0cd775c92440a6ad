import SymbolResolver.Lazy.Leaf
import SymbolResolver.Lazy.Store

/-!
# Lazy collections

A collection is a set whose members come from several sources, and a source is a cell whose value is
a list. Sources stand in the order of their priorities. Membership tests and searches pull only the
sources they need; merging pulls all of them and keeps the first of equal elements.
-/

namespace SymbolResolver

namespace Lazy

/-- The rank of a source. -/
inductive Priority
  /-- After all others. -/
  | low
  /-- The usual rank. -/
  | normal
  /-- Before all others. -/
  | high
deriving DecidableEq, Repr, Ord

namespace Priority

/-- The tag that names a priority in texts. -/
def tag : Priority → String
  | low => "low"
  | normal => "normal"
  | high => "high"

/-- Reads a tag. -/
def ofTag? (text : String) : Option Priority :=
  [low, normal, high].find? (·.tag == text)

end Priority

/-- How lists of elements are kept among the values of a store. -/
class Listed (ν α : Type) where
  /-- A list as a stored value. -/
  wrap : List α → ν
  /-- The list that a stored value holds. -/
  unwrap : ν → List α
  /-- Nothing is lost by keeping a list. -/
  unwrap_wrap (items : List α) : unwrap (wrap items) = items

attribute [simp] Listed.unwrap_wrap

/-- A store of lists keeps them as they are. -/
instance (α : Type) : Listed (List α) α where
  wrap items := items
  unwrap items := items
  unwrap_wrap _ := rfl

/-- A source of a collection. -/
structure Source (α : Type) where
  /-- The rank among the sources. -/
  priority : Priority
  /-- The cell of its list. -/
  cell : Nat
  /-- A test that fails only for elements that the source does not hold. -/
  mayHold : Option (α → Bool)

/-- Whether the hint of a source admits an element. -/
def Source.admits {α : Type} (source : Source α) (value : α) : Bool :=
  match source.mayHold with
  | some mayHold => mayHold value
  | none => true

/-- A set whose members come from cells. -/
structure Collection (α : Type) where
  /-- The sources, highest priority first. -/
  sources : List (Source α)
  /-- The cell of the merged list. -/
  merged : Nat

/-- Keeps the first of equal elements, given the ones that were met before. -/
def distinctAfter {α : Type} [BEq α] : List α → List α → List α
  | _, [] => []
  | met, item :: items =>
    if met.contains item then distinctAfter met items
    else item :: distinctAfter (item :: met) items

/-- Keeps the first of equal elements. -/
def distinct {α : Type} [BEq α] (items : List α) : List α := distinctAfter [] items

namespace Collection

variable {ε ν α β : Type}

/-- The list of a source. -/
def pull [Listed ν α] (source : Source α) : Computation ε ν (Outcome (List α)) :=
  (Computation.outcomeOf source.cell).mapOk Listed.unwrap

/-- Puts sources into the order of their priorities and keeps the order of registration inside a
priority. -/
def arrange (sources : List (Source α)) : List (Source α) :=
  sources.filter (·.priority == .high) ++ sources.filter (·.priority == .normal) ++
    sources.filter (·.priority == .low)

/-- Starts every source. -/
def startAll (sources : List (Source α)) (next : Computation ε ν β) : Computation ε ν β :=
  sources.foldr (fun source rest => .start source.cell rest) next

/-- Waits for the sources in order and adds up their lists. The first failure ends it. -/
def gather [Listed ν α] : List (Source α) → Computation ε ν (Outcome (List α))
  | [] => .finish (.ok [])
  | source :: sources =>
    (pull source).andThen fun items => (gather sources).mapOk fun others => items ++ others

/-- The computation of the merged list: all sources are started before the first is waited for. -/
def mergeWork [Listed ν α] [BEq α] (sources : List (Source α)) : Computation ε ν (Outcome ν) :=
  startAll sources ((gather sources).mapOk fun items => Listed.wrap (distinct items))

/-- Builds the collection of registered sources. -/
def build [Listed ν α] [BEq α] (store : Store ε ν) (registered : List (Source α)) :
    Collection α × Store ε ν :=
  let sources := arrange registered
  let (merged, store) := store.defer (mergeWork sources) (sources.map Source.cell)
  (⟨sources, merged⟩, store)

/-- The cells that a collection holds. -/
def cells (collection : Collection α) : List Nat :=
  collection.merged :: collection.sources.map Source.cell

/-! ## Reading -/

/-- All members. -/
def materialize [Listed ν α] (collection : Collection α) : Computation ε ν (Outcome (List α)) :=
  (Computation.outcomeOf collection.merged).mapOk Listed.unwrap

/-- The number of members. -/
def size [Listed ν α] (collection : Collection α) : Computation ε ν (Outcome Nat) :=
  (materialize collection).mapOk List.length

/-- Whether there are no members. -/
def isEmpty [Listed ν α] (collection : Collection α) : Computation ε ν (Outcome Bool) :=
  (materialize collection).mapOk List.isEmpty

/-- Whether one of the sources that admit an element holds it. Sources after the first such one are
left alone. -/
def scanFor [Listed ν α] [BEq α] (value : α) :
    List (Source α) → Computation ε ν (Outcome Bool)
  | [] => .finish (.ok false)
  | source :: sources =>
    if source.admits value then
      (pull source).andThen fun items =>
        if items.contains value then .finish (.ok true) else scanFor value sources
    else scanFor value sources

/-- The first match among the sources. Sources after it are left alone. -/
def scanFirst [Listed ν α] (test : α → Bool) :
    List (Source α) → Computation ε ν (Outcome (Option α))
  | [] => .finish (.ok none)
  | source :: sources =>
    (pull source).andThen fun items =>
      match items.find? test with
      | some found => .finish (.ok (some found))
      | none => scanFirst test sources

/-- Reads the merged list if it is there, and otherwise the sources. -/
def readMerged [Listed ν α] (collection : Collection α) (ofMerged : List α → β)
    (ofSources : Computation ε ν (Outcome β)) : Computation ε ν (Outcome β) :=
  .peek collection.merged fun
    | some (.ok stored) => .finish (.ok (ofMerged (Listed.unwrap stored)))
    | _ => ofSources

/-- Membership. -/
def contains [Listed ν α] [BEq α] (collection : Collection α) (value : α) :
    Computation ε ν (Outcome Bool) :=
  readMerged collection (fun items => items.contains value)
    (scanFor value collection.sources)

/-- The first member that passes a test. -/
def first? [Listed ν α] (collection : Collection α) (test : α → Bool) :
    Computation ε ν (Outcome (Option α)) :=
  readMerged collection (fun items => items.find? test)
    (scanFirst test collection.sources)

/-! ## Derived collections -/

/-- The computation of one source of a view: once the source it views has succeeded, the function of
the view is applied to its list. -/
def viewWork [Listed ν α] [Listed ν β] (keep : α → Leaf ε (Option β)) (source : Source α) :
    Computation ε ν (Outcome ν) :=
  (pull source).andThen fun items =>
    (Leaf.filterMap keep items).work.bind fun kept => .finish (.ok (Listed.wrap kept))

/-- The source of a view. -/
def viewSource [Listed ν α] [Listed ν β] (keep : α → Leaf ε (Option β)) (store : Store ε ν)
    (source : Source α) : Source β × Store ε ν :=
  let (cell, store) := store.defer (viewWork keep source) [source.cell]
  (⟨source.priority, cell, none⟩, store)

/-- The sources of a view. -/
def viewSources [Listed ν α] [Listed ν β] (keep : α → Leaf ε (Option β)) :
    Store ε ν → List (Source α) → List (Source β) × Store ε ν
  | store, [] => ([], store)
  | store, source :: sources =>
    let (view, store) := viewSource keep store source
    let (views, store) := viewSources keep store sources
    (view :: views, store)

/-- A view of a collection: the results of a function on the members for which it has one. -/
def filterMap [Listed ν α] [Listed ν β] [BEq β] (store : Store ε ν) (collection : Collection α)
    (keep : α → Leaf ε (Option β)) : Collection β × Store ε ν :=
  let (sources, store) := viewSources keep store collection.sources
  build store sources

/-- The union of two collections. Their sources are shared. -/
def chain [Listed ν α] [BEq α] (store : Store ε ν) (left right : Collection α) :
    Collection α × Store ε ν :=
  build store (left.sources ++ right.sources)

/-- How many sources have been started. -/
def sourcesStarted (store : Store ε ν) (collection : Collection α) : Nat :=
  collection.sources.countP fun source => store.isStarted source.cell

/-- The text that is shown for a collection. -/
def display (store : Store ε ν) (collection : Collection α) : String :=
  "LazyCollection \x7b sources: " ++ toString collection.sources.length ++ ", merged: " ++
    ((store.state? collection.merged).map CellState.display).getD "" ++ " \x7d"

end Collection

end Lazy

end SymbolResolver
