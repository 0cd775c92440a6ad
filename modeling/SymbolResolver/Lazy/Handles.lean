import SymbolResolver.Lazy.Callers

/-!
# Deferred values under handles

Users name cells by handles. They make new cells, copy and give up handles, start cells, ask for
outcomes and look at them. In between, gates open and callers and tasks get their turns. A cell that
nobody has a handle on after a move is abandoned.
-/

namespace SymbolResolver

namespace Lazy

/-- A pool whose cells are named by handles. -/
structure Holding (ε ν : Type) extends Pool ε ν where
  /-- The handles with their cells, each handle once. -/
  handles : List (String × Nat)

/-- What users of handles can do, and what can happen in between. -/
inductive Move (ε ν : Type)
  /-- A new computation, with the cells that it refers to. -/
  | create (handle : String) (work : Computation ε ν (Outcome ν)) (needed : List Nat)
  /-- An outcome that is known. -/
  | know (handle : String) (outcome : Outcome ν)
  /-- A second handle on a cell. -/
  | clone (handle origin : String)
  /-- Gives a handle up. -/
  | drop (handle : String)
  /-- Starts a cell without waiting. -/
  | start (handle : String)
  /-- Waits for a cell, and gives up when nothing can make progress. -/
  | get (handle : String)
  /-- Looks at a cell without waiting. -/
  | peek (handle : String)
  /-- Lets a new caller wait for a cell. -/
  | spawn (handle : String)
  /-- A turn in between. -/
  | turn (turn : Turn)

namespace Holding

variable {ε ν : Type}

/-- The holding without handles. -/
def empty : Holding ε ν := ⟨.empty, []⟩

/-- The cell of a handle. -/
def cell? (holding : Holding ε ν) (handle : String) : Option Nat := holding.handles.lookup handle

/-- The cells that users have handles on. -/
def held (holding : Holding ε ν) : List Nat := holding.handles.map (·.2)

/-- Gives a handle up. -/
def forget (holding : Holding ε ν) (handle : String) : Holding ε ν :=
  { holding with handles := holding.handles.filter (·.1 != handle) }

/-- Lets a handle name a cell. -/
def assign (holding : Holding ε ν) (handle : String) (made : Nat × Store ε ν) : Holding ε ν :=
  let (cell, store) := made
  { holding with store := store, handles := (handle, cell) :: (holding.forget handle).handles }

/-- Does something to the pool for the cell of a handle, if it names one. -/
def withCell (holding : Holding ε ν) (handle : String) (action : Nat → Pool ε ν) : Holding ε ν :=
  match holding.cell? handle with
  | some cell => { holding with toPool := action cell }
  | none => holding

/-- What a move does itself. -/
def act (scheduling : Scheduling) (holding : Holding ε ν) : Move ε ν → Holding ε ν
  | .create handle work needed => holding.assign handle (holding.store.defer work needed)
  | .know handle outcome => holding.assign handle (holding.store.settled outcome)
  | .clone handle origin =>
    match holding.cell? origin with
    | some cell => holding.assign handle (cell, holding.store)
    | none => holding
  | .drop handle => holding.forget handle
  | .start handle =>
    holding.withCell handle fun cell => { holding.toPool with store := holding.store.start cell }
  | .get handle => holding.withCell handle holding.demand
  | .peek _ => holding
  | .spawn handle => holding.withCell handle holding.enroll
  | .turn turn => { holding with toPool := holding.toPool.turn scheduling holding.held turn }

/-- Abandons every cell that nobody has a handle on. -/
def release (scheduling : Scheduling) (holding : Holding ε ν) : Holding ε ν :=
  { holding with toPool := holding.toPool.release scheduling holding.held }

/-- What a move changes. -/
def perform (scheduling : Scheduling) (holding : Holding ε ν) (move : Move ε ν) : Holding ε ν :=
  (holding.act scheduling move).release scheduling

theorem store_perform (scheduling : Scheduling) (holding : Holding ε ν) (move : Move ε ν) :
    (holding.perform scheduling move).store = (holding.act scheduling move).store := rfl

theorem callers_perform (scheduling : Scheduling) (holding : Holding ε ν)
    (move : Move ε ν) :
    (holding.perform scheduling move).callers = (holding.act scheduling move).callers := rfl

theorem handles_perform (scheduling : Scheduling) (holding : Holding ε ν)
    (move : Move ε ν) :
    (holding.perform scheduling move).handles = (holding.act scheduling move).handles := rfl

/-- What moves change one after the other. -/
def performAll (scheduling : Scheduling) (holding : Holding ε ν) (moves : List (Move ε ν)) :
    Holding ε ν :=
  moves.foldl (perform scheduling) holding

/-- The outcome that is known for a handle. -/
def outcome? (holding : Holding ε ν) (handle : String) : Option (Outcome ν) :=
  (holding.cell? handle).bind holding.store.outcome?

end Holding

end Lazy

end SymbolResolver
