import SymbolResolver.Error

/-!
# Computations

A computation is a program that runs beside others. It can leave notes, wait at a gate until someone
opens it, start the computation of a numbered cell without waiting for it, wait for the outcome of a
cell, and look whether a cell already has one. Cells are described in `SymbolResolver.Lazy.Store`.
-/

namespace SymbolResolver

namespace Lazy

/-- A computation with result `α` that leaves notes of type `ε` beside cells that hold values of
type `ν`. -/
inductive Computation (ε ν α : Type)
  /-- The end, with a result. -/
  | finish (result : α)
  /-- An end without a result. -/
  | breakOff
  /-- Leaves a note. -/
  | note (event : ε) (next : Computation ε ν α)
  /-- Waits until a gate is open. -/
  | pass (gate : String) (next : Computation ε ν α)
  /-- Starts a cell and goes on at once. -/
  | start (cell : Nat) (next : Computation ε ν α)
  /-- Starts a cell and waits for its outcome. -/
  | await (cell : Nat) (next : Outcome ν → Computation ε ν α)
  /-- Looks at the outcome of a cell, if it has one by now. -/
  | peek (cell : Nat) (next : Option (Outcome ν) → Computation ε ν α)

namespace Computation

variable {ε ν α β γ : Type}

/-- Goes on with the result of a computation. -/
def bind : Computation ε ν α → (α → Computation ε ν β) → Computation ε ν β
  | finish result, continuation => continuation result
  | breakOff, _ => breakOff
  | note event next, continuation => note event (next.bind continuation)
  | pass gate next, continuation => pass gate (next.bind continuation)
  | start cell next, continuation => start cell (next.bind continuation)
  | await cell next, continuation => await cell fun outcome => (next outcome).bind continuation
  | peek cell next, continuation => peek cell fun outcome => (next outcome).bind continuation

instance : Monad (Computation ε ν) where
  pure := finish
  bind := bind

@[simp] theorem bind_finish (work : Computation ε ν α) : work.bind finish = work := by
  induction work <;> simp_all [bind]

theorem bind_assoc (work : Computation ε ν α) (first : α → Computation ε ν β)
    (second : β → Computation ε ν γ) :
    (work.bind first).bind second = work.bind fun result => (first result).bind second := by
  induction work <;> simp_all [bind]

/-- Goes on with a success and passes an error through. -/
def andThen (work : Computation ε ν (Outcome α)) (continuation : α → Computation ε ν (Outcome β)) :
    Computation ε ν (Outcome β) :=
  work.bind fun
    | .ok value => continuation value
    | .error error => finish (.error error)

/-- Applies a function to a success and passes an error through. -/
def mapOk (work : Computation ε ν (Outcome α)) (f : α → β) : Computation ε ν (Outcome β) :=
  work.andThen fun value => finish (.ok (f value))

/-- The outcome of a cell. -/
def outcomeOf (cell : Nat) : Computation ε ν (Outcome ν) := await cell finish

/-- How far a computation has come. -/
inductive Progress (α : Type)
  /-- It has ended with a result. -/
  | finished (result : α)
  /-- It has ended without a result. -/
  | brokenOff
  /-- It waits for a gate or a cell. -/
  | waiting
deriving DecidableEq, Repr

/-- How far the rest of a computation has come. -/
def progress : Computation ε ν α → Progress α
  | finish result => .finished result
  | breakOff => .brokenOff
  | _ => .waiting

end Computation

end Lazy

end SymbolResolver
