import SymbolResolver.Lazy.Callers
import SymbolResolver.Lazy.Collection

/-!
# Shelves

Collections that share a store. Users name collections by handles and lists by names, build new
collections from lists and from each other, and read them. A reading that has to wait stays under
way until it is taken up again or dropped, and in between gates open and tasks get their turns. A
cell that nobody has a handle on after a move is abandoned.
-/

namespace SymbolResolver

namespace Lazy

/-- What a reading asks. -/
inductive Query (α : Type)
  /-- All members. -/
  | materialize
  /-- The number of members. -/
  | size
  /-- Whether there are none. -/
  | isEmpty
  /-- Membership. -/
  | contains (value : α)
  /-- The first member that passes a test. -/
  | first (test : α → Bool)

/-- What a reading finds. -/
inductive Finding (α : Type)
  /-- Members. -/
  | members (items : List α)
  /-- A number. -/
  | number (count : Nat)
  /-- A truth value. -/
  | truth (holds : Bool)
  /-- A member, if there is one. -/
  | member (found : Option α)

/-- The computation of a query. -/
def Query.work {ε ν α : Type} [Listed ν α] [BEq α] (collection : Collection α) :
    Query α → Computation ε ν (Outcome (Finding α))
  | materialize => collection.materialize.mapOk .members
  | size => collection.size.mapOk .number
  | isEmpty => collection.isEmpty.mapOk .truth
  | contains value => (collection.contains value).mapOk .truth
  | first test => (collection.first? test).mapOk .member

/-- A reading of a collection. -/
inductive Reading (ε ν α : Type)
  /-- It waits, with this much left to do. -/
  | waiting (collection : Collection α) (rest : Computation ε ν (Outcome (Finding α)))
  /-- It has come to its end. -/
  | finished (outcome : Outcome (Finding α))
  /-- It was dropped while it waited. -/
  | dropped

namespace Reading

variable {ε ν α : Type}

/-- A reading with the rest of its computation. -/
def ofRest (collection : Collection α) : Computation ε ν (Outcome (Finding α)) → Reading ε ν α
  | .finish outcome => finished outcome
  | .breakOff => finished (.error .brokenOff)
  | rest => waiting collection rest

/-- The cells that a reading has handles on. -/
def cells : Reading ε ν α → List Nat
  | waiting collection _ => collection.cells
  | _ => []

/-- Stops waiting. -/
def drop : Reading ε ν α → Reading ε ν α
  | waiting _ _ => dropped
  | reading => reading

end Reading

/-- What a source of a new collection is made of. -/
inductive SourceSpec (ε ν α : Type)
  /-- A list that is known. -/
  | values (items : List α)
  /-- A computation of a list, with the cells that it refers to and an optional hint. -/
  | computed (work : Computation ε ν (Outcome (List α))) (needed : List Nat)
      (hint : Option (α → Bool))
  /-- A list that has a name, with an optional hint. -/
  | feed (name : String) (hint : Option (α → Bool))

/-- Collections under handles, with the executor of their cells and the readings under way. -/
structure Shelf (ε ν α : Type) extends Executor ε ν where
  /-- The named lists with their cells. -/
  feeds : List (String × Nat)
  /-- The handles with their collections, each handle once. -/
  handles : List (String × Collection α)
  /-- The readings, numbered in the order they began. -/
  readings : List (Reading ε ν α)

/-- What users of a shelf can do, and what can happen in between. -/
inductive ShelfMove (ε ν α : Type)
  /-- Names a computation of a list, with the cells that it refers to. -/
  | feed (name : String) (work : Computation ε ν (Outcome (List α))) (needed : List Nat)
  /-- A new collection. -/
  | build (handle : String) (registered : List (Priority × SourceSpec ε ν α))
  /-- A view of a collection. -/
  | filterMap (handle origin : String) (keep : α → Leaf ε (Option α))
  /-- The union of two collections. -/
  | chain (handle left right : String)
  /-- A second handle on a collection. -/
  | clone (handle origin : String)
  /-- Gives a handle up. -/
  | drop (handle : String)
  /-- Begins a reading. -/
  | read (handle : String) (query : Query α)
  /-- A turn in between, with readings as callers. -/
  | turn (turn : Turn)

namespace Shelf

variable {ε ν α : Type} [Listed ν α] [BEq α]

/-- The shelf without collections. -/
def empty : Shelf ε ν α := ⟨.empty, [], [], []⟩

/-- The collection of a handle. -/
def collection? (shelf : Shelf ε ν α) (handle : String) : Option (Collection α) :=
  shelf.handles.lookup handle

/-- The cells that have handles from outside: those of named lists, of collections with their sources,
and of readings. -/
def held (shelf : Shelf ε ν α) : List Nat :=
  shelf.feeds.map (·.2) ++ shelf.handles.flatMap (fun (_, collection) => collection.cells) ++
    shelf.readings.flatMap Reading.cells

/-- Gives a handle up. -/
def forget (shelf : Shelf ε ν α) (handle : String) : Shelf ε ν α :=
  { shelf with handles := shelf.handles.filter (·.1 != handle) }

/-- Lets a handle name a collection. -/
def assign (shelf : Shelf ε ν α) (handle : String) (made : Collection α × Store ε ν) :
    Shelf ε ν α :=
  let (collection, store) := made
  { shelf with store := store, handles := (handle, collection) :: (shelf.forget handle).handles }

/-- Registers a source. A name that stands for no list stands for the empty one. -/
def register (shelf : Shelf ε ν α) (store : Store ε ν) (priority : Priority) :
    SourceSpec ε ν α → Source α × Store ε ν
  | .values items =>
    let (cell, store) := store.settled (.ok (Listed.wrap items))
    (⟨priority, cell, none⟩, store)
  | .computed work needed hint =>
    let (cell, store) := store.defer (work.mapOk Listed.wrap) needed
    (⟨priority, cell, hint⟩, store)
  | .feed name hint =>
    match shelf.feeds.lookup name with
    | some cell => (⟨priority, cell, hint⟩, store)
    | none =>
      let (cell, store) := store.settled (.ok (Listed.wrap ([] : List α)))
      (⟨priority, cell, none⟩, store)

/-- Registers sources in order. -/
def registerAll (shelf : Shelf ε ν α) :
    Store ε ν → List (Priority × SourceSpec ε ν α) → List (Source α) × Store ε ν
  | store, [] => ([], store)
  | store, (priority, spec) :: specs =>
    let (source, store) := shelf.register store priority spec
    let (sources, store) := registerAll shelf store specs
    (source :: sources, store)

/-- Runs a reading of a collection as far as it can go. -/
def follow (shelf : Shelf ε ν α) (collection : Collection α)
    (work : Computation ε ν (Outcome (Finding α))) : Reading ε ν α × Store ε ν :=
  let (rest, store) := shelf.store.run work
  (.ofRest collection rest, store)

/-- Takes a reading up again. -/
def resume (shelf : Shelf ε ν α) (number : Nat) : Shelf ε ν α :=
  match shelf.readings[number]? with
  | some (.waiting collection rest) =>
    let (reading, store) := shelf.follow collection rest
    { shelf with store := store, readings := shelf.readings.set number reading }
  | _ => shelf

/-- One turn. Readings go on only when it is theirs. -/
def turn (scheduling : Scheduling) (shelf : Shelf ε ν α) : Turn → Shelf ε ν α
  | .openGate gate => { shelf with store := shelf.store.openGate gate }
  | .resume number => shelf.resume number
  | .drop number => { shelf with readings := shelf.readings.modify number Reading.drop }
  | .task cell => { shelf with toExecutor := shelf.toExecutor.runTask scheduling cell }
  | .settle => { shelf with toExecutor := shelf.toExecutor.settle scheduling shelf.held }

/-- What a move does itself. -/
def act (scheduling : Scheduling) (shelf : Shelf ε ν α) : ShelfMove ε ν α → Shelf ε ν α
  | .feed name work needed =>
    let (cell, store) := shelf.store.defer (work.mapOk Listed.wrap) needed
    { shelf with store := store, feeds := (name, cell) :: shelf.feeds.filter (·.1 != name) }
  | .build handle registered =>
    let (sources, store) := shelf.registerAll shelf.store registered
    shelf.assign handle (Collection.build store sources)
  | .filterMap handle origin keep =>
    match shelf.collection? origin with
    | some collection => shelf.assign handle (collection.filterMap shelf.store keep)
    | none => shelf
  | .chain handle left right =>
    match shelf.collection? left, shelf.collection? right with
    | some first, some second => shelf.assign handle (Collection.chain shelf.store first second)
    | _, _ => shelf
  | .clone handle origin =>
    match shelf.collection? origin with
    | some collection => shelf.assign handle (collection, shelf.store)
    | none => shelf
  | .drop handle => shelf.forget handle
  | .read handle query =>
    match shelf.collection? handle with
    | some collection =>
      let (reading, store) := shelf.follow collection (query.work collection)
      { shelf with store := store, readings := shelf.readings ++ [reading] }
    | none => shelf
  | .turn turn => shelf.turn scheduling turn

/-- Abandons every cell that nobody has a handle on. -/
def release (scheduling : Scheduling) (shelf : Shelf ε ν α) : Shelf ε ν α :=
  { shelf with toExecutor := shelf.toExecutor.release scheduling shelf.held }

/-- What a move changes. -/
def perform (scheduling : Scheduling) (shelf : Shelf ε ν α) (move : ShelfMove ε ν α) :
    Shelf ε ν α :=
  (shelf.act scheduling move).release scheduling

theorem store_perform (scheduling : Scheduling) (shelf : Shelf ε ν α) (move : ShelfMove ε ν α) :
    (shelf.perform scheduling move).store = (shelf.act scheduling move).store := rfl

theorem handles_perform (scheduling : Scheduling) (shelf : Shelf ε ν α)
    (move : ShelfMove ε ν α) :
    (shelf.perform scheduling move).handles = (shelf.act scheduling move).handles := rfl

theorem readings_perform (scheduling : Scheduling) (shelf : Shelf ε ν α)
    (move : ShelfMove ε ν α) :
    (shelf.perform scheduling move).readings = (shelf.act scheduling move).readings := rfl

/-- What moves change one after the other. -/
def performAll (scheduling : Scheduling) (shelf : Shelf ε ν α) (moves : List (ShelfMove ε ν α)) :
    Shelf ε ν α :=
  moves.foldl (perform scheduling) shelf

end Shelf

end Lazy

end SymbolResolver
