import SymbolResolver.Lazy.Callers
import SymbolResolver.Resolution.Cache

/-!
# Shared caches

Requests, removals and turns on one cache, in any order. A request that finds no entry brings the
computation of a new one; every request then waits for the cell of its entry as a caller, also when
the entry is removed in the meantime. A cell that neither an entry nor a caller has a handle on is
abandoned.
-/

namespace SymbolResolver

namespace Resolution

open Lazy

/-- A cache with the pool that its cells belong to. -/
structure SharedCache (ε ν : Type) extends Pool ε ν where
  /-- The cache. -/
  cache : Cache

/-- What users of a cache can do, and what can happen in between. -/
inductive CacheMove (ε ν : Type)
  /-- Asks for the outcome of a key, with a computation in case there is no entry. -/
  | ask (key : CacheKey) (work : Computation ε ν (Outcome ν)) (needed : List Nat)
  /-- Looks at the outcome of a key. -/
  | peek (key : CacheKey)
  /-- Removes the entries of a file. -/
  | invalidate (file : FileId)
  /-- Removes all entries. -/
  | clear
  /-- A turn in between. -/
  | turn (turn : Turn)

/-- What a move answers. -/
inductive CacheReply (ν : Type)
  /-- Nothing. -/
  | done
  /-- The outcome of a key. -/
  | outcome (outcome : Outcome ν)
  /-- The caller has to wait. -/
  | pending
  /-- There is no outcome under the key. -/
  | absent
  /-- The number of removed entries. -/
  | removed (count : Nat)

namespace SharedCache

variable {ε ν : Type}

/-- A cache without entries. -/
def empty : SharedCache ε ν := ⟨.empty, .empty⟩

/-- Lets a new caller ask for the cell of a key, which is made if there is none. -/
def ask (shared : SharedCache ε ν) (key : CacheKey) (work : Computation ε ν (Outcome ν))
    (needed : List Nat) : SharedCache ε ν :=
  let (cell, cache, store) := shared.cache.request shared.store key work needed
  ⟨{ shared.toPool with store := store }.enroll cell, cache⟩

/-- What a move does itself. -/
def act (scheduling : Scheduling) (shared : SharedCache ε ν) : CacheMove ε ν → SharedCache ε ν
  | .ask key work needed => shared.ask key work needed
  | .peek _ => shared
  | .invalidate file => { shared with cache := shared.cache.invalidate file }
  | .clear => { shared with cache := .empty }
  | .turn turn => { shared with toPool := shared.toPool.turn scheduling shared.cache.cells turn }

/-- Abandons every cell that nobody has a handle on. -/
def release (scheduling : Scheduling) (shared : SharedCache ε ν) : SharedCache ε ν :=
  { shared with toPool := shared.toPool.release scheduling shared.cache.cells }

/-- What a move changes. -/
def perform (scheduling : Scheduling) (shared : SharedCache ε ν) (move : CacheMove ε ν) :
    SharedCache ε ν :=
  (shared.act scheduling move).release scheduling

theorem store_perform (scheduling : Scheduling) (shared : SharedCache ε ν)
    (move : CacheMove ε ν) :
    (shared.perform scheduling move).store = (shared.act scheduling move).store := rfl

theorem callers_perform (scheduling : Scheduling) (shared : SharedCache ε ν)
    (move : CacheMove ε ν) :
    (shared.perform scheduling move).callers = (shared.act scheduling move).callers := rfl

theorem cache_perform (scheduling : Scheduling) (shared : SharedCache ε ν)
    (move : CacheMove ε ν) :
    (shared.perform scheduling move).cache = (shared.act scheduling move).cache := rfl

/-- What moves change one after the other. -/
def performAll (scheduling : Scheduling) (shared : SharedCache ε ν)
    (moves : List (CacheMove ε ν)) : SharedCache ε ν :=
  moves.foldl (perform scheduling) shared

/-- What a caller has got so far. -/
def received (shared : SharedCache ε ν) (caller : Nat) : CacheReply ν :=
  match shared.callers[caller]? with
  | some (.finished _ outcome) => .outcome outcome
  | _ => .pending

/-- What a move answers at once. -/
def answer (shared : SharedCache ε ν) : CacheMove ε ν → CacheReply ν
  | .ask key work needed => (shared.ask key work needed).received shared.callers.length
  | .peek key =>
    match shared.cache.peek? shared.store key with
    | some outcome => .outcome outcome
    | none => .absent
  | .invalidate file => .removed (shared.cache.countOf file)
  | .clear => .done
  | .turn _ => .done

end SharedCache

end Resolution

end SymbolResolver
