import SymbolResolver.Lazy.Computation

/-!
# Cells and their store

A cell holds a computation that runs at most once. Everyone who asks for its outcome shares that one
run, and the outcome is kept for good. The computation of a cell refers only to cells that were made
before it, so a cell is run by recursion on its number.

Running a computation goes as far as closed gates allow. Under `Scheduling.spawning` a started cell
also runs between the steps of its users, and under `Scheduling.onDemand` it only runs while someone
waits for it.
-/

namespace SymbolResolver

namespace Lazy

/-- Who runs started cells. -/
inductive Scheduling
  /-- A started cell has a task of its own, which runs it. -/
  | spawning
  /-- Cells run only while someone waits for them. -/
  | onDemand
deriving DecidableEq, Repr

/-- The state of a cell. -/
inductive CellState (ε ν : Type)
  /-- Nobody has asked yet. -/
  | pending (work : Computation ε ν (Outcome ν))
  /-- Someone has asked, and this much is left to do. -/
  | running (work : Computation ε ν (Outcome ν))
  /-- The outcome is known. -/
  | settled (outcome : Outcome ν)

/-- A cell: its state, and the cells that its computation has handles on. -/
structure Cell (ε ν : Type) where
  /-- The state. -/
  state : CellState ε ν
  /-- The cells that the computation refers to. -/
  needed : List Nat

/-- Numbered cells, the gates that have been opened, and the notes left so far. -/
structure Store (ε ν : Type) where
  /-- The cells, by number. -/
  cells : List (Cell ε ν)
  /-- The open gates. -/
  openGates : List String
  /-- The notes, oldest first. -/
  notes : List ε

namespace CellState

variable {ε ν : Type}

/-- Where the rest of a computation leaves its cell. Breaking off is an outcome, too. -/
def ofRest : Computation ε ν (Outcome ν) → CellState ε ν
  | .finish outcome => settled outcome
  | .breakOff => settled (.error .brokenOff)
  | rest => running rest

/-- Starts a pending computation. -/
def started : CellState ε ν → CellState ε ν
  | pending work => running work
  | state => state

/-- The outcome of a settled cell. -/
def outcome? : CellState ε ν → Option (Outcome ν)
  | settled outcome => some outcome
  | _ => none

/-- Whether the computation has been started, or was never needed. -/
def isStarted : CellState ε ν → Bool
  | pending _ => false
  | _ => true

/-- Whether the outcome is known. -/
def isSettled : CellState ε ν → Bool
  | settled _ => true
  | _ => false

/-- The word for a state. -/
def label : CellState ε ν → String
  | pending _ => "pending"
  | running _ => "running"
  | settled _ => "settled"

/-- The text that is shown for a deferred value in a state. -/
def display (state : CellState ε ν) : String :=
  "DeferredValue \x7b state: \"" ++ state.label ++ "\" \x7d"

theorem isStarted_ofRest (rest : Computation ε ν (Outcome ν)) : (ofRest rest).isStarted = true := by
  cases rest <;> rfl

end CellState

namespace Store

variable {ε ν α : Type}

/-- The store without cells. -/
def empty : Store ε ν := ⟨[], [], []⟩

/-- The number of cells. -/
def size (store : Store ε ν) : Nat := store.cells.length

/-- The state of a cell. -/
def state? (store : Store ε ν) (cell : Nat) : Option (CellState ε ν) :=
  store.cells[cell]?.map Cell.state

/-- The outcome of a cell, if it is settled. -/
def outcome? (store : Store ε ν) (cell : Nat) : Option (Outcome ν) :=
  (store.state? cell).bind CellState.outcome?

/-- Whether a cell has been started. -/
def isStarted (store : Store ε ν) (cell : Nat) : Bool :=
  (store.state? cell).any CellState.isStarted

/-- Whether a cell is settled. -/
def isSettled (store : Store ε ν) (cell : Nat) : Bool :=
  (store.state? cell).any CellState.isSettled

/-- The cells that the computation of a cell refers to. -/
def needed (store : Store ε ν) (cell : Nat) : List Nat :=
  (store.cells[cell]?.map Cell.needed).getD []

/-- Changes the state of a cell. -/
def modify (store : Store ε ν) (cell : Nat) (change : CellState ε ν → CellState ε ν) :
    Store ε ν :=
  { store with
    cells := store.cells.modify cell fun content => { content with state := change content.state } }

/-- Makes a new cell in a given state. -/
def allocate (store : Store ε ν) (state : CellState ε ν) (needed : List Nat) :
    Nat × Store ε ν :=
  (store.size, { store with cells := store.cells ++ [⟨state, needed⟩] })

/-- Makes a new cell for a computation that nobody has asked for yet. -/
def defer (store : Store ε ν) (work : Computation ε ν (Outcome ν)) (needed : List Nat) :
    Nat × Store ε ν :=
  store.allocate (.pending work) needed

/-- Makes a new cell whose outcome is known. -/
def settled (store : Store ε ν) (outcome : Outcome ν) : Nat × Store ε ν :=
  store.allocate (.settled outcome) []

/-- Starts a cell. -/
def start (store : Store ε ν) (cell : Nat) : Store ε ν := store.modify cell CellState.started

/-- Leaves a note. -/
def record (store : Store ε ν) (event : ε) : Store ε ν :=
  { store with notes := store.notes ++ [event] }

/-- Opens a gate for good. -/
def openGate (store : Store ε ν) (gate : String) : Store ε ν :=
  { store with openGates := gate :: store.openGates }

/-- Whether a gate is open. -/
def isOpen (store : Store ε ν) (gate : String) : Bool := store.openGates.contains gate

/-! ## Reading after writing -/

@[simp] theorem size_modify (store : Store ε ν) (cell : Nat)
    (change : CellState ε ν → CellState ε ν) : (store.modify cell change).size = store.size := by
  simp [modify, size]

@[simp] theorem notes_modify (store : Store ε ν) (cell : Nat)
    (change : CellState ε ν → CellState ε ν) : (store.modify cell change).notes = store.notes := rfl

theorem state?_modify (store : Store ε ν) (cell other : Nat)
    (change : CellState ε ν → CellState ε ν) :
    (store.modify cell change).state? other =
      if cell = other then (store.state? other).map change else store.state? other := by
  by_cases same : cell = other <;> cases found : store.cells[other]? <;>
    simp [state?, modify, same, found]

@[simp] theorem size_start (store : Store ε ν) (cell : Nat) :
    (store.start cell).size = store.size :=
  store.size_modify cell _

theorem state?_start (store : Store ε ν) (cell other : Nat) :
    (store.start cell).state? other =
      if cell = other then (store.state? other).map CellState.started else store.state? other :=
  store.state?_modify cell other _

theorem lt_size_of_state? {store : Store ε ν} {cell : Nat} {state : CellState ε ν}
    (found : store.state? cell = some state) : cell < store.size := by
  simp only [state?, Option.map_eq_some_iff] at found
  obtain ⟨content, at_cell, _⟩ := found
  exact (List.getElem?_eq_some_iff.mp at_cell).1

theorem exists_state?_of_lt {store : Store ε ν} {cell : Nat} (inside : cell < store.size) :
    ∃ state, store.state? cell = some state :=
  ⟨_, by rw [state?, List.getElem?_eq_getElem inside, Option.map_some]⟩

@[simp] theorem size_allocate (store : Store ε ν) (state : CellState ε ν) (needed : List Nat) :
    (store.allocate state needed).2.size = store.size + 1 := by
  simp [allocate, size]

theorem state?_allocate (store : Store ε ν) (state : CellState ε ν) (needed : List Nat)
    (other : Nat) :
    (store.allocate state needed).2.state? other =
      if other = store.size then some state else store.state? other := by
  by_cases same : other = store.size
  · simp [allocate, state?, size, same]
  · simp only [allocate, state?, List.getElem?_append, if_neg same]
    split
    · rfl
    · next outside =>
      have beyond : store.cells.length < other :=
        Nat.lt_of_le_of_ne (Nat.le_of_not_lt outside) (Ne.symm same)
      rw [List.getElem?_eq_none (Nat.le_of_lt beyond), List.getElem?_eq_none]
      exact Nat.le_sub_of_add_le' beyond

/-! ## Running -/

/-- Runs a computation as far as it can go, given a way to run the cells it waits for. The result is
what is left of it. -/
def advance (poll : Nat → Store ε ν → Store ε ν) :
    Computation ε ν α → Store ε ν → Computation ε ν α × Store ε ν
  | .finish result, store => (.finish result, store)
  | .breakOff, store => (.breakOff, store)
  | .note event next, store => advance poll next (store.record event)
  | .pass gate next, store =>
    if store.isOpen gate then advance poll next store else (.pass gate next, store)
  | .start cell next, store => advance poll next (store.start cell)
  | .await cell next, store =>
    let polled := poll cell (store.start cell)
    match polled.outcome? cell with
    | some outcome => advance poll (next outcome) polled
    | none => (.await cell next, polled)
  | .peek cell next, store => advance poll (next (store.outcome? cell)) store

/-- Runs a started cell as far as it can go, if its number is below a bound. -/
def pollBelow : Nat → Nat → Store ε ν → Store ε ν
  | 0, _, store => store
  | bound + 1, cell, store =>
    if cell = bound then
      match store.state? cell with
      | some (.running work) =>
        let (rest, after) := advance (pollBelow bound) work store
        after.modify cell fun _ => .ofRest rest
      | _ => store
    else pollBelow bound cell store

theorem pollBelow_of_running {store : Store ε ν} {bound : Nat}
    {work : Computation ε ν (Outcome ν)} (running : store.state? bound = some (.running work)) :
    pollBelow (bound + 1) bound store =
      (advance (pollBelow bound) work store).2.modify bound fun _ =>
        .ofRest (advance (pollBelow bound) work store).1 := by
  simp [pollBelow, running]

theorem pollBelow_of_not_running {store : Store ε ν} {bound : Nat}
    (not_running : ∀ work, store.state? bound ≠ some (.running work)) :
    pollBelow (bound + 1) bound store = store := by
  rw [pollBelow, if_pos rfl]
  split
  · next work running => exact absurd running (not_running work)
  · rfl

theorem pollBelow_of_ne {bound cell : Nat} (different : cell ≠ bound) (store : Store ε ν) :
    pollBelow (bound + 1) cell store = pollBelow bound cell store := by
  simp [pollBelow, different]

/-- Runs a started cell as far as it can go. -/
def poll (store : Store ε ν) (cell : Nat) : Store ε ν := pollBelow store.size cell store

/-- Runs a computation that belongs to no cell. -/
def run (store : Store ε ν) (work : Computation ε ν α) : Computation ε ν α × Store ε ν :=
  advance (pollBelow store.size) work store

end Store

end Lazy

end SymbolResolver
