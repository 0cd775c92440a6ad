import SymbolResolver.Resolution.Request

/-!
# Chains of stages

A stage answers a request, or hands it to the rest of the chain and may change what comes back. The
stages of a chain are found by their positions: what is left of a chain is the number of stages that
have not run, and a chain with none left knows no answer.
-/

namespace SymbolResolver

namespace Resolution

/-- Where in a chain a stage stands. -/
structure Place where
  /-- The position of the next stage. -/
  position : Nat
  /-- How many stages come after this one. -/
  remaining : Nat
deriving DecidableEq, Repr

/-- A stage of a chain. -/
structure Stage where
  /-- The name of the stage. -/
  name : String
  /-- What it does with a request, given the rest of the chain. -/
  intercept : Place → Request → (Request → Resolving) → Resolving

namespace Chain

/-- Runs the last stages of a chain, as many as are left. -/
def proceed (stages : List Stage) : Nat → Request → Resolving
  | 0, _ => .answer none
  | remaining + 1, request =>
    match stages[stages.length - (remaining + 1)]? with
    | some stage =>
      stage.intercept ⟨stages.length - remaining, remaining⟩ request (proceed stages remaining)
    | none => .answer none

/-- Runs a whole chain. -/
def run (stages : List Stage) (request : Request) : Resolving :=
  proceed stages stages.length request

end Chain

end Resolution

end SymbolResolver
