import SymbolResolver.Lazy.Computation

/-!
# Leaves

A leaf is work that touches no cells: it leaves notes, waits at gates, and comes to an end of its
own. What users hand to derived values and to views is made of leaves.
-/

namespace SymbolResolver

namespace Lazy

/-- Work with result `α` that leaves notes of type `ε` and touches no cells. -/
inductive Leaf (ε α : Type)
  /-- The end, with a result. -/
  | finish (result : α)
  /-- An end without a result. -/
  | breakOff
  /-- Leaves a note. -/
  | note (event : ε) (next : Leaf ε α)
  /-- Waits until a gate is open. -/
  | pass (gate : String) (next : Leaf ε α)

namespace Leaf

variable {ε ν α β : Type}

/-- The leaf as a computation. -/
def work : Leaf ε α → Computation ε ν α
  | finish result => .finish result
  | breakOff => .breakOff
  | note event next => .note event next.work
  | pass gate next => .pass gate next.work

/-- The result, unless the leaf breaks off. -/
def result? : Leaf ε α → Option α
  | finish result => some result
  | breakOff => none
  | note _ next => next.result?
  | pass _ next => next.result?

/-- The notes, in the order in which they are left. -/
def notes : Leaf ε α → List ε
  | finish _ => []
  | breakOff => []
  | note event next => event :: next.notes
  | pass _ next => next.notes

/-- Goes on with the result of a leaf. -/
def bind : Leaf ε α → (α → Leaf ε β) → Leaf ε β
  | finish result, continuation => continuation result
  | breakOff, _ => breakOff
  | note event next, continuation => note event (next.bind continuation)
  | pass gate next, continuation => pass gate (next.bind continuation)

/-- Applies a function that may have effects to the elements of a list, one after the other, and
keeps the results it has. -/
def filterMap (keep : α → Leaf ε (Option β)) : List α → Leaf ε (List β)
  | [] => finish []
  | item :: items =>
    (keep item).bind fun kept =>
      (filterMap keep items).bind fun others => finish (kept.toList ++ others)

end Leaf

end Lazy

end SymbolResolver
