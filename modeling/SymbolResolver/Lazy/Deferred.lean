import SymbolResolver.Lazy.Node
import SymbolResolver.Lazy.Recipe

/-!
# Scripts over deferred values

A script names deferred values by handles, derives new ones from them, and asks for their outcomes.
Assigning and dropping handles decides which values can still be asked for. The values are texts,
and a derived value appends to the text of the one it comes from.
-/

namespace SymbolResolver

namespace Lazy

namespace Deferred

/-- One step of a script. -/
inductive Step
  /-- A new computation. -/
  | create (handle : String) (recipe : Recipe) (value : String)
  /-- A value that is known. -/
  | ready (handle value : String)
  /-- A failure that is known. -/
  | failed (handle : String) (error : Error)
  /-- A value derived by appending a text. -/
  | map (handle origin suffix : String)
  /-- A value derived by a computation that appends a text. -/
  | andThen (handle origin : String) (recipe : Recipe) (suffix : String)
  /-- A second handle on a value. -/
  | clone (handle origin : String)
  /-- Gives a handle up. -/
  | drop (handle : String)
  /-- Starts a value without waiting. -/
  | start (handle : String)
  /-- Waits for a value, and gives up when nothing can make progress. -/
  | get (handle : String)
  /-- Looks at a value without waiting. -/
  | peek (handle : String)
  /-- Opens a gate. -/
  | openGate (gate : String)
  /-- Lets a caller wait for a value in the background. -/
  | spawn (handle caller : String)
  /-- Stops a caller that is still waiting. -/
  | abort (caller : String)
  /-- Asks what a caller got. -/
  | join (caller : String)
deriving DecidableEq, Repr

/-- What a step answers. -/
inductive Reply
  /-- Nothing. -/
  | done
  /-- An outcome. -/
  | outcome (outcome : Outcome String)
  /-- There is no outcome yet. -/
  | pending
  /-- The caller was stopped. -/
  | aborted

/-- The state of a script. -/
structure Session extends Holding Mark String where
  /-- The names of callers with their numbers, the latest first. A name stands for the latest caller
  that has it; the earlier ones still wait, but nobody can ask for them any more. -/
  names : List (String × Nat)

namespace Session

/-- A script that has not done anything. -/
def initial : Session := ⟨.empty, []⟩

/-- The move that a step makes. A step on something unknown makes none. -/
def move? (session : Session) : Step → Option (Move Mark String)
  | .create handle recipe value => some ((Node.computed (recipe.leaf value)).move handle)
  | .ready handle value => some ((Node.known (.ok value)).move handle)
  | .failed handle error => some ((Node.known (.error error)).move handle)
  | .map handle origin suffix =>
    (session.cell? origin).map fun cell =>
      (Node.map cell fun value => .note (.began handle) (.finish (value ++ suffix))).move handle
  | .andThen handle origin recipe suffix =>
    (session.cell? origin).map fun cell =>
      (Node.andThen cell fun value => recipe.leaf (value ++ suffix)).move handle
  | .clone handle origin => some (.clone handle origin)
  | .drop handle => some (.drop handle)
  | .start handle => some (.start handle)
  | .get handle => some (.get handle)
  | .peek handle => some (.peek handle)
  | .openGate gate => some (.turn (.openGate gate))
  | .spawn handle _ => some (.spawn handle)
  | .abort caller => (session.names.lookup caller).map fun number => .turn (.drop number)
  | .join _ => none

/-- The names of callers after a step. -/
def namesAfter (session : Session) : Step → List (String × Nat)
  | .spawn handle caller =>
    if (session.cell? handle).isSome then (caller, session.callers.length) :: session.names
    else session.names
  | _ => session.names

/-- One step: what it changes, and everything that can happen afterwards. -/
def step (scheduling : Scheduling) (session : Session) (taken : Step) : Session where
  toHolding :=
    session.toHolding.performAll scheduling ((session.move? taken).toList ++ [.turn .settle])
  names := session.namesAfter taken

/-- What a step answers, once nothing can make progress any more. -/
def answer (session : Session) : Step → Reply
  | .get handle | .peek handle =>
    match session.outcome? handle with
    | some outcome => .outcome outcome
    | none => .pending
  | .join caller =>
    match (session.names.lookup caller).bind fun number => session.callers[number]? with
    | some (.finished _ outcome) => .outcome outcome
    | some (.dropped _) => .aborted
    | _ => .pending
  | _ => .done

/-- The states after each step of a script. -/
def run (scheduling : Scheduling) : Session → List Step → List Session
  | _, [] => []
  | session, taken :: steps =>
    let next := session.step scheduling taken
    next :: run scheduling next steps

end Session

end Deferred

end Lazy

end SymbolResolver
