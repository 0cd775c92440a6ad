import SymbolResolver.Lazy.Store

/-!
# Tasks

A cell belongs to those who have a handle on it: its users, the callers that wait for it, and the
computations that refer to it. A computation owns its handles until it has come to its end or is
dropped. When the last handle on a cell is gone, the cell is abandoned at once. A computation that no
task runs is dropped on the spot, and the handles that it owns go with it. A task is aborted instead:
it does not run any more, but its computation is only dropped at its next turn, and until then it
keeps the handles that it owns.

Tasks wait for their turns in a queue. Turns may come in any order here, so that histories of turns
cover every order of the queue; a turn of a task that has nothing to go on with changes nothing.
-/

namespace SymbolResolver

namespace Lazy

/-- What has become of the cells that nobody has a handle on any more. -/
structure Tasks where
  /-- The cells whose tasks are aborted and wait for the turn that drops their computations. -/
  aborted : List Nat
  /-- The cells whose computations have been dropped. -/
  dropped : List Nat

namespace Tasks

variable {ε ν : Type}

/-- Nothing has been abandoned. -/
def none : Tasks := ⟨[], []⟩

/-- Whether the last handle on a cell is gone. -/
def isAbandoned (tasks : Tasks) (cell : Nat) : Bool :=
  tasks.aborted.contains cell || tasks.dropped.contains cell

/-- Whether the computation of a cell is still there. A computation that has come to its end is not.
-/
def hasComputation (tasks : Tasks) (store : Store ε ν) (cell : Nat) : Bool :=
  !store.isSettled cell && !tasks.dropped.contains cell

/-- Whether anyone has a handle on a cell: someone outside, or a computation that is still there. -/
def isOwned (tasks : Tasks) (store : Store ε ν) (held : List Nat) (cell : Nat) : Bool :=
  held.contains cell ||
    (List.range store.size).any fun other =>
      tasks.hasComputation store other && (store.needed other).contains cell

/-- Drops the computation of a cell. -/
def drop (tasks : Tasks) (cell : Nat) : Tasks :=
  ⟨tasks.aborted.filter (· != cell), cell :: tasks.dropped⟩

/-- The last handle on a cell goes: a task is aborted, and a computation without a task is dropped.
-/
def abandon (scheduling : Scheduling) (store : Store ε ν) (tasks : Tasks) (cell : Nat) : Tasks :=
  match store.state? cell, scheduling with
  | some (.running _), .spawning => { tasks with aborted := cell :: tasks.aborted }
  | some (.running _), .onDemand => tasks.drop cell
  | some (.pending _), _ => tasks.drop cell
  | _, _ => tasks

/-- Abandons the cells below a bound that nobody has a handle on. The pass goes from the latest cell
to the earliest, since computations refer to earlier cells only. -/
def releaseBelow (scheduling : Scheduling) (store : Store ε ν) (held : List Nat) :
    Nat → Tasks → Tasks
  | 0, tasks => tasks
  | bound + 1, tasks =>
    releaseBelow scheduling store held bound
      (if tasks.isAbandoned bound || tasks.isOwned store held bound then tasks
      else tasks.abandon scheduling store bound)

/-- Abandons every cell that nobody has a handle on, given those that have one from outside. -/
def release (scheduling : Scheduling) (store : Store ε ν) (held : List Nat) (tasks : Tasks) : Tasks :=
  tasks.releaseBelow scheduling store held store.size

end Tasks

/-- A store with the tasks of its cells. -/
structure Executor (ε ν : Type) where
  /-- The cells. -/
  store : Store ε ν
  /-- The tasks. -/
  tasks : Tasks

namespace Executor

variable {ε ν : Type}

/-- The executor without cells. -/
def empty : Executor ε ν := ⟨.empty, .none⟩

/-- Abandons every cell that nobody has a handle on. -/
def release (scheduling : Scheduling) (held : List Nat) (executor : Executor ε ν) : Executor ε ν :=
  { executor with tasks := executor.tasks.release scheduling executor.store held }

/-- Gives the task of a cell a turn. An aborted task drops its computation, and any other one runs
the cell as far as it can go. -/
def runTask (scheduling : Scheduling) (executor : Executor ε ν) (cell : Nat) : Executor ε ν :=
  match scheduling with
  | .spawning =>
    if executor.tasks.dropped.contains cell then executor
    else if executor.tasks.aborted.contains cell then
      { executor with tasks := executor.tasks.drop cell }
    else { executor with store := executor.store.poll cell }
  | .onDemand => executor

/-- Gives the tasks of the cells below a bound their turns, from the latest cell to the earliest. -/
def settleBelow (scheduling : Scheduling) (held : List Nat) : Nat → Executor ε ν → Executor ε ν
  | 0, executor => executor
  | bound + 1, executor =>
    settleBelow scheduling held bound
      ((executor.runTask scheduling bound).release scheduling held)

/-- Gives every task a turn. A task runs what it waits for and drops what later tasks would need, so
nothing can make progress afterwards. -/
def settle (scheduling : Scheduling) (held : List Nat) (executor : Executor ε ν) : Executor ε ν :=
  executor.settleBelow scheduling held executor.store.size

end Executor

end Lazy

end SymbolResolver
