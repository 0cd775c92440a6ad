import SymbolResolver.Lazy.Handles
import SymbolResolver.Lazy.Leaf

/-!
# Nodes

The ways to make a deferred value: from work of its own, with an outcome that is known, or derived
from a value that was made before. A derived value waits for its origin when it is asked for, and it
goes on with a success only.
-/

namespace SymbolResolver

namespace Lazy

/-- What a deferred value is made of. -/
inductive Node (ε ν : Type)
  /-- Work of its own. -/
  | computed (leaf : Leaf ε (Outcome ν))
  /-- An outcome that is known. -/
  | known (outcome : Outcome ν)
  /-- A function of the value of another cell. -/
  | map (origin : Nat) (function : ν → Leaf ε ν)
  /-- Work that goes on with the value of another cell. -/
  | andThen (origin : Nat) (continuation : ν → Leaf ε (Outcome ν))

namespace Node

variable {ε ν : Type}

/-- The computation of a derived value: it waits for its origin and goes on with a success. -/
def derivedWork (origin : Nat) (continuation : ν → Computation ε ν (Outcome ν)) :
    Computation ε ν (Outcome ν) :=
  (Computation.outcomeOf origin).andThen continuation

/-- The computation of a function of another value. A function that breaks off breaks it off. -/
def mapWork (origin : Nat) (function : ν → Leaf ε ν) : Computation ε ν (Outcome ν) :=
  derivedWork origin fun value => (function value).work.bind (.finish <| .ok ·)

/-- The computation that goes on with another value. -/
def andThenWork (origin : Nat) (continuation : ν → Leaf ε (Outcome ν)) :
    Computation ε ν (Outcome ν) :=
  derivedWork origin fun value => (continuation value).work

/-- The move that makes a deferred value. -/
def move (handle : String) : Node ε ν → Move ε ν
  | computed leaf => .create handle leaf.work []
  | known outcome => .know handle outcome
  | map origin function => .create handle (mapWork origin function) [origin]
  | andThen origin continuation => .create handle (andThenWork origin continuation) [origin]

end Node

end Lazy

end SymbolResolver
