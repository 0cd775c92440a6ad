import SymbolResolver.Lazy.Tasks

/-!
# Callers

A caller waits for the outcome of a cell. Whenever it gets a turn it runs the cell as far as closed
gates allow, and it takes the outcome once there is one. It may also be dropped while it waits; what
it has done so far stays with the cell. A caller that waits has a handle on its cell. A pool is an
executor with its callers, and a turn is something that happens to a pool between the requests of its
users.
-/

namespace SymbolResolver

namespace Lazy

/-- Someone who has asked for the outcome of a cell. -/
inductive Caller (ν : Type)
  /-- It waits. -/
  | waiting (cell : Nat)
  /-- It has the outcome. -/
  | finished (cell : Nat) (outcome : Outcome ν)
  /-- It was dropped while it waited. -/
  | dropped (cell : Nat)

namespace Caller

variable {ε ν : Type}

/-- The cell that a caller has asked for. -/
def cell : Caller ν → Nat
  | waiting cell => cell
  | finished cell _ => cell
  | dropped cell => cell

/-- The cell that a caller still waits for. -/
def awaited? : Caller ν → Option Nat
  | waiting cell => some cell
  | _ => none

/-- Takes the outcome, if it is known. -/
def wake (store : Store ε ν) : Caller ν → Caller ν
  | waiting cell =>
    match store.outcome? cell with
    | some outcome => finished cell outcome
    | none => waiting cell
  | caller => caller

/-- Stops waiting. -/
def drop : Caller ν → Caller ν
  | waiting cell => dropped cell
  | caller => caller

end Caller

/-- An executor and its callers. -/
structure Pool (ε ν : Type) extends Executor ε ν where
  /-- The callers, numbered in the order they came. -/
  callers : List (Caller ν)

/-- What can happen to a pool between the requests of its users. -/
inductive Turn
  /-- A gate is opened for good. -/
  | openGate (gate : String)
  /-- A caller gets a turn. -/
  | resume (caller : Nat)
  /-- A caller is dropped. -/
  | drop (caller : Nat)
  /-- The task of a cell gets a turn. -/
  | task (cell : Nat)
  /-- All tasks and callers get turns until nothing can make progress. -/
  | settle
deriving DecidableEq, Repr

namespace Pool

variable {ε ν : Type}

/-- The pool without cells. -/
def empty : Pool ε ν := ⟨.empty, []⟩

/-- The cells that callers wait for. -/
def awaited (pool : Pool ε ν) : List Nat := pool.callers.filterMap Caller.awaited?

/-- Runs a cell on behalf of someone who waits for it. -/
def demand (pool : Pool ε ν) (cell : Nat) : Pool ε ν :=
  { pool with store := (pool.store.run (Computation.outcomeOf cell)).2 }

/-- Lets a new caller ask for a cell. -/
def enroll (pool : Pool ε ν) (cell : Nat) : Pool ε ν :=
  let demanded := pool.demand cell
  { demanded with
    callers := demanded.callers ++ [Caller.wake demanded.store (.waiting cell)] }

/-- Gives a caller a turn. -/
def resume (pool : Pool ε ν) (number : Nat) : Pool ε ν :=
  match pool.callers[number]? with
  | some (.waiting cell) =>
    let demanded := pool.demand cell
    { demanded with callers := demanded.callers.modify number (Caller.wake demanded.store) }
  | _ => pool

/-- Drops a caller. -/
def drop (pool : Pool ε ν) (number : Nat) : Pool ε ν :=
  { pool with callers := pool.callers.modify number Caller.drop }

/-- Gives waiting callers the outcomes that are known by now. -/
def wake (pool : Pool ε ν) : Pool ε ν :=
  { pool with callers := pool.callers.map (Caller.wake pool.store) }

/-- Abandons every cell that nobody has a handle on. -/
def release (scheduling : Scheduling) (held : List Nat) (pool : Pool ε ν) : Pool ε ν :=
  { pool with toExecutor := pool.toExecutor.release scheduling (held ++ pool.awaited) }

/-- Runs whatever runs by itself until nothing can make progress. -/
def settle (scheduling : Scheduling) (held : List Nat) (pool : Pool ε ν) : Pool ε ν :=
  wake { pool with toExecutor := pool.toExecutor.settle scheduling (held ++ pool.awaited) }

/-- One turn, given the cells that users hold. -/
def turn (scheduling : Scheduling) (held : List Nat) (pool : Pool ε ν) : Turn → Pool ε ν
  | .openGate gate => { pool with store := pool.store.openGate gate }
  | .resume caller => pool.resume caller
  | .drop caller => pool.drop caller
  | .task cell => { pool with toExecutor := pool.toExecutor.runTask scheduling cell }
  | .settle => pool.settle scheduling held

@[simp] theorem store_release (scheduling : Scheduling) (held : List Nat) (pool : Pool ε ν) :
    (pool.release scheduling held).store = pool.store := rfl

@[simp] theorem callers_release (scheduling : Scheduling) (held : List Nat) (pool : Pool ε ν) :
    (pool.release scheduling held).callers = pool.callers := rfl

end Pool

end Lazy

end SymbolResolver
