import SymbolResolver.Proofs.CachedAnswers
import SymbolResolver.Proofs.Tracking

/-!
# Retained entries

The entry of a cache stays in its place, whatever is called on resolvers of the same world, until it
is removed. Its cell stays where the one run of its computation has come to, so the outcome that a
request has got is the outcome of every later request with the same key (`Retains.dispatch_again`).
-/

namespace SymbolResolver

namespace Lazy

variable {ε ν α β : Type}

/-- A cell has come from a state by one run. No notes are told apart. -/
def Store.Comes (store : Store ε ν) (cell : Nat) (origin : CellState ε ν) : Prop :=
  store.Tracked (fun _ => false) cell origin []

theorem Computation.within_silence (work : Computation ε ν α) :
    work.Within (silence fun _ => false) := by
  have everything : ({} : Scope ε).Le (silence fun _ => false) :=
    ⟨fun _ _ => rfl, fun _ => id, fun _ => id, fun _ => id, fun _ => id, id⟩
  exact work.within_all.mono everything

namespace Store.Comes

variable {store : Store ε ν} {cell : Nat} {origin : CellState ε ν}

theorem of_state (found : store.state? cell = some origin) : store.Comes cell origin := by
  refine ⟨fun other state _ => ?_, origin, [], found, .refl _ _, by simp⟩
  exact state.within_unmarked.mono (silence_le_apart _ _ other)

theorem defer (store : Store ε ν) (work : Computation ε ν (Outcome ν)) (needed : List Nat) :
    (store.defer work needed).2.Comes store.size (.pending work) :=
  of_state ((store.state?_allocate _ needed _).trans (if_pos rfl))

theorem allocate (comes : store.Comes cell origin) (state : CellState ε ν) (needed : List Nat) :
    (store.allocate state needed).2.Comes cell origin :=
  Tracked.allocate comes state.within_unmarked needed

theorem run (comes : store.Comes cell origin) (other : Computation ε ν α) :
    (store.run other).2.Comes cell origin :=
  Tracked.run other.within_silence comes

theorem outcome_eq {outcome : Outcome ν} (comes : store.Comes cell (.settled outcome)) :
    store.outcome? cell = some outcome := by
  obtain ⟨state, trace, found, ⟨-, rfl⟩, -⟩ := comes.flight
  exact outcome?_eq_some_iff.mpr found

/-- The outcome of a cell is the end of a course of its computation. -/
theorem course {work : Computation ε ν (Outcome ν)} (comes : store.Comes cell (.pending work))
    {outcome : Outcome ν}
    (known : store.outcome? cell = some outcome) :
    ∃ trace rest, store.Runs (fun _ => False) work trace rest ∧
      (rest = .finish outcome ∨ rest = .breakOff ∧ outcome = .error .brokenOff) := by
  obtain ⟨state, trace, found, advances, -⟩ := comes.flight
  rw [outcome?_eq_some_iff.mp known] at found
  cases found
  obtain ⟨rest, run, ended⟩ := advances.settled_course
  exact ⟨trace, rest, run, ended⟩

end Store.Comes

/-- A wait for a cell is held up, or ends with the outcome that the cell has then. -/
theorem Store.run_outcomeOf_cases (store : Store ε ν) (cell : Nat) (unwrap : ν → α) :
    let served := store.run ((Computation.outcomeOf cell).mapOk unwrap)
    (served.2.outcome? cell = none ∧ served.1.progress = .waiting) ∨
      ∃ outcome, served.2.outcome? cell = some outcome ∧
        served.1.progress = .finished (outcome.map unwrap) := by
  intro served
  have served_eq : served = ((store.run (Computation.outcomeOf cell)).1.mapOk unwrap,
      (store.run (Computation.outcomeOf cell)).2) := advance_mapOk _ _ unwrap store
  rw [served_eq, run_outcomeOf_rest]
  cases known : (store.run (Computation.outcomeOf cell)).2.outcome? cell with
  | none => exact .inl ⟨rfl, rfl⟩
  | some outcome =>
      refine .inr ⟨outcome, rfl, ?_⟩
      cases outcome <;> rfl

end Lazy

namespace Resolution

open Lazy

/-- What holds of a world after a request and is preserved by what follows holds in the end. -/
theorem World.andThen_keeps {α β : Type} (Kept : World → Prop) {ended : Ending α × World}
    {continuation : α → World → Ending β × World} (first : Kept ended.2)
    (continued : ∀ value world, Kept world → Kept (continuation value world).2) :
    Kept (World.andThen ended continuation).2 := by
  obtain ⟨ending, world⟩ := ended
  rcases ending with (error | value) | _ | _
  · exact first
  · exact continued value world first
  · exact first
  · exact first

section Calls

variable (Kept : World → Prop) {resolver : Resolver} {world : World}

theorem Resolver.resolveEach_keeps {file : FileContext}
    (asked : ∀ text language world, Kept world →
      Kept (resolver.resolve file text language world).2)
    (references : List ReferenceName) (kept : Kept world) :
    Kept (resolver.resolveEach file references world).2 := by
  induction references generalizing world with
  | nil => exact kept
  | cons reference references ih =>
      apply World.andThen_keeps Kept
      · exact asked _ _ world kept
      · intro answer world kept
        apply World.andThen_keeps Kept
        · exact ih kept
        · exact fun answers world kept => kept

theorem Resolver.resolveTogether_keeps {texts : List (FileContext × String × Language)}
    (asked : ∀ entry ∈ texts, ∀ text language world, Kept world →
      Kept (resolver.resolve entry.1 text language world).2) (kept : Kept world) :
    Kept (resolver.resolveTogether texts world).2 := by
  induction texts generalizing world with
  | nil => exact kept
  | cons entry texts ih =>
      rw [List.forall_mem_cons] at asked
      exact ih asked.2 (asked.1 _ _ world kept)

/-- A call leaves true what the requests that it is about do, if its run of a chain and its removal of
entries do so. -/
theorem Resolver.call_keeps {call : Call}
    (asked : ∀ inquiry ∈ call.inquiries resolver.binding, ∀ text language world, Kept world →
      Kept (resolver.dispatch (resolver.request inquiry.file text language inquiry.node) world).2)
    (ran : ∀ stages request, call = .runChain stages request →
      Kept (Resolver.runDirectly (Chain.run stages request) world).2)
    (invalidated : ∀ file, call = .invalidate file → Kept (resolver.invalidate file world))
    (cleared : call = .clear → Kept (resolver.clear world)) (kept : Kept world) :
    Kept (resolver.call world call).2 := by
  cases call with
  | resolve file text language => exact asked _ (List.mem_singleton_self _) _ _ world kept
  | resolveNode file node language => exact asked _ (List.mem_singleton_self _) _ _ world kept
  | resolveAll file references =>
      apply World.andThen_keeps Kept
      · exact resolver.resolveEach_keeps Kept (asked _ (List.mem_singleton_self _)) references kept
      · exact fun answers world kept => kept
  | resolveTogether texts =>
      exact resolver.resolveTogether_keeps Kept
        (fun entry member => asked _ (List.mem_map_of_mem member)) kept
  | runChain stages request => exact ran stages request rfl
  | peek key =>
      simp only [Resolver.call]
      split <;> exact kept
  | invalidate file =>
      simp only [Resolver.call]
      split
      · exact invalidated file rfl
      · exact kept
  | clear =>
      simp only [Resolver.call]
      split
      · exact cleared rfl
      · exact kept

end Calls

/-- What the requests and runs of a resolver leave true of a world. -/
structure Resolver.Keeps (resolver : Resolver) (Kept : World → Prop) : Prop where
  dispatch : ∀ request world, Kept world → Kept (resolver.dispatch request world).2
  run : ∀ work world, Kept world → Kept (Resolver.runDirectly work world).2

/-- A call leaves true what its requests and runs do, if its removal of entries does so. -/
theorem Resolver.Keeps.call {resolver : Resolver} {Kept : World → Prop} {world : World}
    (keeps : resolver.Keeps Kept) (call : Call)
    (invalidated : ∀ file, call = .invalidate file → Kept world →
      Kept (resolver.invalidate file world))
    (cleared : call = .clear → Kept world → Kept (resolver.clear world)) (kept : Kept world) :
    Kept (resolver.call world call).2 :=
  resolver.call_keeps Kept (fun _ _ _ _ world => keeps.dispatch _ world)
    (fun _ _ _ => keeps.run _ world kept) (fun file is_call => invalidated file is_call kept)
    (fun is_call => cleared is_call kept) kept

/-- Whether a call on a resolver removes the entry of a key from a cache. -/
def Call.removes (number : Nat) (key : CacheKey) (resolver : Resolver) : Call → Prop
  | .invalidate file => resolver.cache = some number ∧ key.file = file
  | .clear => resolver.cache = some number
  | _ => False

/-- A cache has an entry for a key, whose cell has come from a state by one run. -/
structure World.Retains (world : World) (number : Nat) (key : CacheKey) (cell : Nat)
    (origin : CellState Event Payload) : Prop where
  found : (world.cacheAt number).cell? key = some cell
  comes : world.store.Comes cell origin

namespace World.Retains

variable {world : World} {number cell : Nat} {key : CacheKey}
  {origin : CellState Event Payload}

theorem runDirectly (retains : world.Retains number key cell origin) (other : Resolving) :
    (Resolver.runDirectly other world).2.Retains number key cell origin :=
  ⟨retains.found, retains.comes.run other⟩

/-- An entry stays when a request makes one of its own. -/
theorem cell?_request {cache after : Cache} {store later : Store Event Payload} {made : Nat}
    {asked : CacheKey} {other : Computation Event Payload (Outcome Payload)} {needed : List Nat}
    (requested : cache.request store asked other needed = (made, after, later))
    (found : cache.cell? key = some cell) : after.cell? key = some cell := by
  cases present : cache.cell? asked with
  | some entry =>
      rw [Cache.request_of_found present] at requested
      cases requested
      exact found
  | none =>
      rw [Cache.request_of_absent present] at requested
      cases requested
      have different : key ≠ asked := by
        rintro rfl
        rw [found] at present
        cases present
      rw [Cache.cell?_cons, if_neg different, found]

theorem comes_request {cache after : Cache} {store later : Store Event Payload} {made : Nat}
    {asked : CacheKey} {other : Computation Event Payload (Outcome Payload)} {needed : List Nat}
    (requested : cache.request store asked other needed = (made, after, later))
    (comes : store.Comes cell origin) : later.Comes cell origin := by
  cases present : cache.cell? asked with
  | some entry =>
      rw [Cache.request_of_found present] at requested
      cases requested
      exact comes
  | none =>
      rw [Cache.request_of_absent present] at requested
      cases requested
      exact comes.allocate _ needed

theorem dispatch (retains : world.Retains number key cell origin) (resolver : Resolver)
    (request : Request) : (resolver.dispatch request world).2.Retains number key cell origin := by
  cases cached : resolver.cache with
  | none =>
      simp only [Resolver.dispatch, cached]
      exact retains.runDirectly _
  | some other =>
      obtain ⟨⟨made, cache, store⟩, requested⟩ : ∃ made, (world.cacheAt other).request world.store
          (Resolver.keyOf request) ((Chain.run resolver.stages request).mapOk Payload.answer)
          (Resolver.neededBy request) = made := ⟨_, rfl⟩
      rw [Resolver.dispatch_cached cached requested]
      refine ⟨?_, (comes_request requested retains.comes).run _⟩
      rw [World.cacheAt_set]
      split
      · rename_i at_number
        rw [at_number.1] at requested
        exact cell?_request requested retains.found
      · exact retains.found

theorem invalidate (retains : world.Retains number key cell origin) (resolver : Resolver)
    {file : FileId} (kept : ¬ Call.removes number key resolver (.invalidate file)) :
    (resolver.invalidate file world).Retains number key cell origin := by
  refine ⟨?_, resolver.store_invalidate file world ▸ retains.comes⟩
  rw [Resolver.cell?_invalidate]
  exact (if_neg kept).trans retains.found

theorem clear (retains : world.Retains number key cell origin) (resolver : Resolver)
    (kept : ¬ Call.removes number key resolver .clear) :
    (resolver.clear world).Retains number key cell origin := by
  refine ⟨?_, resolver.store_clear world ▸ retains.comes⟩
  rw [Resolver.cell?_clear]
  exact (if_neg kept).trans retains.found

/-- A call keeps an entry that it does not remove. -/
theorem call (retains : world.Retains number key cell origin) (resolver : Resolver) {call : Call}
    (kept : ¬ call.removes number key resolver) :
    (resolver.call world call).2.Retains number key cell origin := by
  have keeps : resolver.Keeps fun world => world.Retains number key cell origin :=
    ⟨fun request _ retains => retains.dispatch resolver request,
      fun work _ retains => retains.runDirectly work⟩
  refine keeps.call call ?_ ?_ retains
  · rintro file rfl retains
    exact retains.invalidate resolver kept
  · rintro rfl retains
    exact retains.clear resolver kept

theorem callAll (retains : world.Retains number key cell origin) (calls : List (Resolver × Call))
    (kept : ∀ entry ∈ calls, ¬ entry.2.removes number key entry.1) :
    (Resolver.callAll world calls).2.Retains number key cell origin := by
  induction calls generalizing world with
  | nil => exact retains
  | cons entry calls ih =>
      rw [List.forall_mem_cons] at kept
      exact ih (retains.call entry.1 kept.1) kept.2

/-- A request that finds an entry waits for the cell of the entry. -/
theorem dispatch_eq (retains : world.Retains number key cell origin) {resolver : Resolver}
    (cached : resolver.cache = some number) {request : Request}
    (same_key : Resolver.keyOf request = key) :
    let served := world.store.run ((Computation.outcomeOf cell).mapOk Payload.toAnswer)
    (resolver.dispatch request world).1 = served.1.progress ∧
      (resolver.dispatch request world).2.store = served.2 := by
  have requested := Cache.request_of_found (same_key ▸ retains.found) world.store
    ((Chain.run resolver.stages request).mapOk Payload.answer) (Resolver.neededBy request)
  rw [Resolver.dispatch_cached cached requested]
  exact ⟨rfl, rfl⟩

/-- What a request has got from an entry, every later request with its key gets from it. -/
theorem dispatch_again (retains : world.Retains number key cell origin) {resolver other : Resolver}
    (cached : resolver.cache = some number) (other_cached : other.cache = some number)
    {request repeated : Request} (same_key : Resolver.keyOf request = key)
    (repeated_key : Resolver.keyOf repeated = key) {outcome : Outcome Answer}
    (finished : (resolver.dispatch request world).1 = .finished outcome)
    (calls : List (Resolver × Call))
    (kept : ∀ entry ∈ calls, ¬ entry.2.removes number key entry.1) :
    (other.dispatch repeated
      (Resolver.callAll (resolver.dispatch request world).2 calls).2).1 = .finished outcome := by
  obtain ⟨ended, store_eq⟩ := retains.dispatch_eq cached same_key
  have again := retains.dispatch resolver request
  rw [ended] at finished
  rcases world.store.run_outcomeOf_cases cell Payload.toAnswer with
    ⟨-, waiting⟩ | ⟨stored, known, ends⟩
  · rw [waiting] at finished
    cases finished
  · rw [ends] at finished
    rw [← store_eq] at known
    -- The entry is settled now, and the calls that come later leave a settled cell as it is.
    have settled : (resolver.dispatch request world).2.Retains number key cell (.settled stored) :=
      ⟨again.found, .of_state (Store.outcome?_eq_some_iff.mp known)⟩
    have later := settled.callAll calls kept
    obtain ⟨ended_again, -⟩ := later.dispatch_eq other_cached repeated_key
    rw [ended_again, ← finished]
    have still_known := (later.comes.run ((Computation.outcomeOf cell).mapOk
      Payload.toAnswer : Resolving)).outcome_eq
    rcases Store.run_outcomeOf_cases _ cell Payload.toAnswer with ⟨unknown, -⟩ | ⟨final, same, ends⟩
    · rw [still_known] at unknown
      cases unknown
    · rw [still_known] at same
      cases same
      exact ends

end World.Retains

/-- A first request makes an entry for its key, whose cell has the whole chain before it. -/
theorem World.retains_new {world : World} {resolver : Resolver} {number : Nat}
    (cached : resolver.cache = some number) (exists_cache : number < world.caches.length)
    {request : Request}
    (unanswered : (world.cacheAt number).cell? (Resolver.keyOf request) = none) :
    ∃ ready : World, ready.Retains number (Resolver.keyOf request) world.store.size
        (.pending ((Chain.run resolver.stages request).mapOk Payload.answer)) ∧
      resolver.dispatch request world = resolver.dispatch request ready := by
  have requested := Cache.request_of_absent unanswered world.store
    ((Chain.run resolver.stages request).mapOk Payload.answer) (Resolver.neededBy request)
  let cache : Cache :=
    ⟨(Resolver.keyOf request, world.store.size) :: (world.cacheAt number).entries⟩
  let ready : World :=
    ⟨(world.store.defer ((Chain.run resolver.stages request).mapOk Payload.answer)
      (Resolver.neededBy request)).2, world.caches.set number cache⟩
  have at_number : ready.cacheAt number = cache := by
    rw [World.cacheAt_set, if_pos ⟨rfl, exists_cache⟩]
  have found : (ready.cacheAt number).cell? (Resolver.keyOf request) = some world.store.size := by
    rw [at_number, Cache.cell?_cons, if_pos rfl]
  have same_caches : ready.caches.set number (ready.cacheAt number) = ready.caches := by
    rw [at_number, List.set_set]
  refine ⟨ready, ⟨found, .defer _ _ _⟩, ?_⟩
  rw [Resolver.dispatch_cached cached requested, Resolver.dispatch_cached cached
    (Cache.request_of_found found ready.store _ _), same_caches]

/-! ## Where entries come from -/

/-- The outcome of a cell that keeps answers is the end of a course of the computation that gave
them. -/
theorem course_of_kept {store : Store Event Payload} {cell : Nat} {work : Resolving}
    (comes : store.Comes cell (.pending (work.mapOk Payload.answer))) {outcome : Outcome Payload}
    (known : store.outcome? cell = some outcome) :
    ∃ trace rest, store.Runs (fun _ => False) work trace rest ∧
      rest.progress.guarded = .finished (outcome.map Payload.toAnswer) := by
  obtain ⟨trace, rest, run, ended⟩ := comes.course known
  obtain ⟨middle, middle_run, rfl⟩ := run.of_mapOk
  refine ⟨trace, middle, middle_run, ?_⟩
  rcases ended with finished | ⟨broken, rfl⟩
  · cases middle with
    | finish result => cases result <;> cases finished <;> rfl
    | breakOff | note | pass | start | await | peek => cases finished
  · cases middle with
    | finish result => cases result <;> cases broken
    | breakOff => rfl
    | note | pass | start | await | peek => cases broken

/-- Every entry of a cache has a cell that has come from a computation that is right for its key. -/
def World.Originates (Right : CacheKey → Resolving → Prop) (number : Nat) (world : World) : Prop :=
  ∀ key cell, (world.cacheAt number).cell? key = some cell → ∃ work, Right key work ∧
    world.store.Comes cell (.pending (work.mapOk Payload.answer))

theorem World.originates_of_empty {Right : CacheKey → Resolving → Prop} {number : Nat}
    {world : World} (empty : world.cacheAt number = .empty) : world.Originates Right number := by
  intro key cell found
  rw [empty] at found
  cases found

namespace World.Originates

variable {Right : CacheKey → Resolving → Prop} {number : Nat} {world : World}
  {resolver : Resolver}

theorem runDirectly (originates : world.Originates Right number) (work : Resolving) :
    (Resolver.runDirectly work world).2.Originates Right number := by
  intro key cell found
  obtain ⟨origin, right, comes⟩ := originates key cell found
  exact ⟨origin, right, comes.run work⟩

/-- The cell that a request waits for is an old one, or has the computation of the request before
it. -/
theorem request (originates : world.Originates Right number) {other : Nat} {key : CacheKey}
    {work : Resolving} (right : other = number → Right key work) {needed : List Nat} {made : Nat}
    {cache : Cache} {store : Store Event Payload}
    (requested : (world.cacheAt other).request world.store key (work.mapOk Payload.answer) needed =
      (made, cache, store)) :
    (other = number → ∃ origin, Right key origin ∧
      store.Comes made (.pending (origin.mapOk Payload.answer))) ∧
    World.Originates Right number ⟨store, world.caches.set other cache⟩ := by
  cases present : (world.cacheAt other).cell? key with
  | some cell =>
      rw [Cache.request_of_found present] at requested
      cases requested
      refine ⟨?_, fun second cell found => ?_⟩
      · rintro rfl
        exact originates key made present
      · rw [World.cacheAt_set_self] at found
        exact originates second cell found
  | none =>
      rw [Cache.request_of_absent present] at requested
      cases requested
      have fresh : other = number → ∃ origin, Right key origin ∧
          (world.store.defer (work.mapOk Payload.answer) needed).2.Comes world.store.size
            (.pending (origin.mapOk Payload.answer)) :=
        fun same => ⟨work, right same, .defer _ _ _⟩
      refine ⟨fresh, fun second cell found => ?_⟩
      rw [World.cacheAt_set] at found
      split at found
      · next at_number =>
        rw [Cache.cell?_cons] at found
        split at found
        · next same =>
          cases found
          exact same ▸ fresh at_number.1
        · obtain ⟨origin, origin_right, comes⟩ := originates second cell (at_number.1 ▸ found)
          exact ⟨origin, origin_right, comes.allocate _ _⟩
      · obtain ⟨origin, origin_right, comes⟩ := originates second cell found
        exact ⟨origin, origin_right, comes.allocate _ _⟩

/-- A request leaves entries that come from where they should. If it waits for an entry of the cache
and comes to an end, then by a course of a computation that is right for its key. -/
theorem dispatch (originates : world.Originates Right number) {asked : Request}
    (right : resolver.cache = some number →
      Right (Resolver.keyOf asked) (Chain.run resolver.stages asked)) :
    let dispatched := resolver.dispatch asked world
    dispatched.2.Originates Right number ∧
      (resolver.cache = some number → ∀ outcome, dispatched.1 = .finished outcome →
        ∃ origin, Right (Resolver.keyOf asked) origin ∧ ∃ trace rest,
          dispatched.2.store.Runs (fun _ => False) origin trace rest ∧
            rest.progress.guarded = .finished outcome) := by
  intro dispatched
  cases cached : resolver.cache with
  | none =>
      simp only [dispatched, Resolver.dispatch, cached]
      exact ⟨originates.runDirectly _, by rintro ⟨⟩⟩
  | some other =>
      obtain ⟨⟨made, cache, store⟩, requested⟩ : ∃ made, (world.cacheAt other).request world.store
          (Resolver.keyOf asked) ((Chain.run resolver.stages asked).mapOk Payload.answer)
          (Resolver.neededBy asked) = made := ⟨_, rfl⟩
      obtain ⟨origin, still⟩ := originates.request
        (fun same => right (cached.trans (congrArg some same))) requested
      rw [show dispatched = _ from Resolver.dispatch_cached cached requested]
      refine ⟨still.runDirectly _, fun same outcome finished => ?_⟩
      obtain ⟨work, work_right, comes⟩ := origin (Option.some.inj same)
      rcases store.run_outcomeOf_cases made Payload.toAnswer with
        ⟨-, waiting⟩ | ⟨stored, known, served⟩
      · rw [waiting] at finished
        cases finished
      · rw [served] at finished
        cases finished
        exact ⟨work, work_right, course_of_kept (comes.run _) known⟩

theorem invalidate (originates : world.Originates Right number) (resolver : Resolver)
    (file : FileId) : (resolver.invalidate file world).Originates Right number := by
  intro key cell found
  rw [Resolver.store_invalidate]
  exact originates key cell (World.entry_of_invalidate found)

theorem clear (originates : world.Originates Right number) (resolver : Resolver) :
    (resolver.clear world).Originates Right number := by
  intro key cell found
  rw [Resolver.store_clear]
  exact originates key cell (World.entry_of_clear found)

theorem callAll (originates : world.Originates Right number) {calls : List (Resolver × Call)}
    (right : ∀ entry ∈ calls, entry.1.cache = some number → ∀ file text language node,
      let request := entry.1.request file text language node
      Right (Resolver.keyOf request) (Chain.run entry.1.stages request)) :
    (Resolver.callAll world calls).2.Originates Right number := by
  induction calls generalizing world with
  | nil => exact originates
  | cons entry calls ih =>
      obtain ⟨resolver, call⟩ := entry
      rw [List.forall_mem_cons] at right
      refine ih (resolver.call_keeps (World.Originates Right number) ?_ ?_ ?_ ?_ originates) right.2
      · intro inquiry _ text language world originates
        exact (originates.dispatch fun cached => right.1 cached _ text language _).1
      · exact fun _ _ _ => originates.runDirectly _
      · exact fun file _ => originates.invalidate resolver file
      · exact fun _ => originates.clear resolver

end World.Originates

end Resolution

end SymbolResolver
