import SymbolResolver.Lazy.Recipe
import SymbolResolver.Resolution.SharedCache

/-!
# Scripts over a cache

A script asks one cache for the answers of requests, each with a computation of fixed course in case
the cache has none, and removes entries in between.
-/

namespace SymbolResolver

namespace Resolution

open Lazy

namespace CacheScript

/-- The values of a script's cells: answers to requests. -/
abbrev Answers := Option ReferenceName

/-- One step of a script. -/
inductive Step
  /-- Asks for the answer of a key, with a computation in case there is none. -/
  | get (key : CacheKey) (recipe : Recipe) (answer : Answers)
  /-- Looks at the answer of a key. -/
  | peek (key : CacheKey)
  /-- Removes the entries of a file. -/
  | invalidate (file : FileId)
  /-- Removes all entries. -/
  | clear
  /-- Opens a gate. -/
  | openGate (gate : String)
deriving DecidableEq, Repr

/-- What a step answers. -/
abbrev Reply := CacheReply Answers

/-- The state of a script. -/
abbrev Session := SharedCache Mark Answers

namespace Session

/-- A script that has not done anything. -/
def initial : Session := .empty

/-- The move that a step makes. -/
def move : Step → CacheMove Mark Answers
  | .get key recipe answer => .ask key (recipe.work answer) []
  | .peek key => .peek key
  | .invalidate file => .invalidate file
  | .clear => .clear
  | .openGate gate => .turn (.openGate gate)

/-- What becomes of the caller of a step: a request gives up when it has to wait. -/
def leave (session : Session) : Step → List (CacheMove Mark Answers)
  | .get _ _ _ => [.turn (.drop session.callers.length)]
  | _ => []

/-- One step: what it changes, everything that can happen afterwards, and what it answers. -/
def step (scheduling : Scheduling) (session : Session) (taken : Step) : Session × Reply :=
  (session.performAll scheduling (move taken :: leave session taken ++ [.turn .settle]),
    session.answer (move taken))

/-- How many computations have begun. -/
def runs (session : Session) : Nat :=
  session.store.notes.countP fun mark => mark.beginning?.isSome

/-- The states and answers after each step of a script. -/
def run (scheduling : Scheduling) : Session → List Step → List (Session × Reply)
  | _, [] => []
  | session, taken :: steps =>
    let (next, reply) := session.step scheduling taken
    (next, reply) :: run scheduling next steps

end Session

end CacheScript

end Resolution

end SymbolResolver
