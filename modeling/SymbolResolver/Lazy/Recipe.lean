import SymbolResolver.Lazy.Leaf
import SymbolResolver.Lazy.Store

/-!
# Recipes

Computations with a fixed course: they note that they have begun, may wait at a gate, note that they
are about to end, and end in a given way. Scripts over deferred values are made of them, and the
notes tell how often each one ran.
-/

namespace SymbolResolver

namespace Lazy

/-- A note that a recipe leaves, under its label. -/
inductive Mark
  /-- The computation has begun. -/
  | began (label : String)
  /-- The computation is about to end. -/
  | ended (label : String)
deriving DecidableEq, Repr

/-- How a recipe ends. -/
inductive Ending
  /-- With its value. -/
  | succeed
  /-- With an error. -/
  | fail (error : Error)
  /-- Without an outcome. -/
  | breakOff
deriving DecidableEq, Repr

/-- The course of a computation. -/
structure Recipe where
  /-- The name under which notes are left. -/
  label : String
  /-- The gate to wait at, if any. -/
  gate : Option String
  /-- The way it ends. -/
  ending : Ending
deriving DecidableEq, Repr

/-- Waits at a gate, if there is one. -/
def passIfAny {ε α : Type} (gate : Option String) (next : Leaf ε α) : Leaf ε α :=
  match gate with
  | some name => .pass name next
  | none => next

/-- The last step of a leaf with a value. -/
def Ending.leaf {ε α : Type} (value : α) : Ending → Leaf ε (Outcome α)
  | succeed => .finish (.ok value)
  | fail error => .finish (.error error)
  | breakOff => .breakOff

/-- The leaf that follows a recipe and, if it succeeds, has the given value. -/
def Recipe.leaf {α : Type} (recipe : Recipe) (value : α) : Leaf Mark (Outcome α) :=
  .note (.began recipe.label)
    (passIfAny recipe.gate (.note (.ended recipe.label) (recipe.ending.leaf value)))

/-- The computation that follows a recipe and, if it succeeds, has the given value. -/
def Recipe.work {ν α : Type} (recipe : Recipe) (value : α) : Computation Mark ν (Outcome α) :=
  (recipe.leaf value).work

/-- How often a recipe began and how often it came to its end. -/
structure Tally where
  /-- The label of the recipe. -/
  label : String
  /-- How often it began. -/
  began : Nat
  /-- How often it came to its end. -/
  ended : Nat
deriving DecidableEq, Repr

/-- The label that a mark begins, if it begins one. -/
def Mark.beginning? : Mark → Option String
  | began label => some label
  | ended _ => none

/-- The tallies of all labels that have begun. -/
def tallies (marks : List Mark) : List Tally :=
  (marks.filterMap Mark.beginning?).eraseDups.map fun label =>
    ⟨label, marks.count (.began label), marks.count (.ended label)⟩

end Lazy

end SymbolResolver
