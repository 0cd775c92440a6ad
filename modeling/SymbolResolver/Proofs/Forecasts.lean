import SymbolResolver.Proofs.BuiltInChains
import SymbolResolver.Proofs.CachedAnswers
import SymbolResolver.Proofs.Foretold

/-!
# Forecasts

When the outcomes of all declaration sources are foretold and there are no semantic bindings, the
answer to a request can be told beforehand. A resolver without a cache gives the answer of every
request (`Forecast.resolve_plain`), and one with a cache gives the answer of the first request that
had its key (`Forecast.resolve_cached`), whether it was made in the same file or not.
-/

namespace SymbolResolver

namespace Resolution

open Lazy

/-- Built-in stages over declarations whose sources have foretold outcomes. -/
structure Forecast where
  kinds : List StageKind
  stdlib : StdlibLookup
  declarations : Collection DeclaredName
  /-- The outcomes of the sources. -/
  shown : Nat → Outcome Payload
  sources_before : ∀ source ∈ declarations.sources, source.cell < declarations.merged

/-- A reference in a file. -/
abbrev Occurrence := FileContext × ReferenceName

theorem Resolver.runDirectly_of_run {work rest : Resolving} {world : World}
    {store : Store Event Payload} (ran : world.store.run work = (rest, store)) :
    Resolver.runDirectly work world = (rest.progress, { world with store := store }) := by
  simp only [Resolver.runDirectly, ran]

/-! ## Failures of declaration sources -/

/-- The error of the first source that fails. -/
def fault? (shown : Nat → Outcome Payload) (sources : List (Source DeclaredName)) : Option Error :=
  sources.findSome? fun source => match shown source.cell with
    | .ok _ => none
    | .error error => some error

section Failures

variable {shown : Nat → Outcome Payload}

theorem value?_pull (shown : Nat → Outcome Payload) (source : Source DeclaredName) :
    (Collection.pull source :
      Computation Event Payload (Outcome (List DeclaredName))).value? shown =
        some ((shown source.cell).map Listed.unwrap) := by
  simp only [Collection.pull, Computation.mapOk, Computation.andThen, Computation.value?_bind,
    Computation.outcomeOf, Computation.value?, Option.bind_some]
  cases shown source.cell <;> rfl

theorem answer_failsOnly {α : Type} (answer : α) (fault : Option Error) :
    (Computation.finish (.ok answer) : Computation Event Payload (Outcome α)).FailsOnly shown
      fault := by
  intro error failed
  simp [Computation.value?] at failed

/-- A search fails only with the error of the first source that does. -/
theorem scanFirst_failsOnly (test : DeclaredName → Bool) (sources : List (Source DeclaredName)) :
    (Collection.scanFirst test sources :
      Computation Event Payload (Outcome (Option DeclaredName))).FailsOnly shown
        (fault? shown sources) := by
  induction sources with
  | nil => exact answer_failsOnly none _
  | cons source sources ih =>
      refine Computation.FailsOnly.andThen ?_ fun items pulled => ?_
      · intro error failed
        rw [value?_pull] at failed
        cases known : shown source.cell with
        | error own_error => simpa [fault?, known, Except.map] using failed
        | ok payload => simp [known, Except.map] at failed
      · rw [value?_pull] at pulled
        have fault_eq : fault? shown (source :: sources) = fault? shown sources := by
          cases known : shown source.cell with
          | error own_error => simp [known, Except.map] at pulled
          | ok payload => simp [fault?, known]
        rw [fault_eq]
        split
        · exact answer_failsOnly _ _
        · exact ih

theorem lookUp_failsOnly {declarations : Collection DeclaredName} {otherwise : Resolving}
    (otherwise_fails : otherwise.FailsOnly shown (fault? shown declarations.sources))
    (candidates : List ReferenceName) :
    (lookUp declarations otherwise candidates).FailsOnly shown
      (fault? shown declarations.sources) := by
  induction candidates with
  | nil => exact otherwise_fails
  | cons candidate candidates ih =>
      refine Computation.FailsOnly.andThen (scanFirst_failsOnly _ _) fun found _ => ?_
      cases found with
      | some declared => exact answer_failsOnly _ _
      | none => exact ih

theorem intercept_failsOnly (kind : StageKind) {request : Request}
    {declarations : Collection DeclaredName} (declared : request.declarations = some declarations)
    (unbound : request.binding = none) {next : Request → Resolving}
    (next_fails : ∀ passed : Request, passed.declarations = some declarations →
      passed.binding = none → (next passed).FailsOnly shown (fault? shown declarations.sources)) :
    (kind.intercept request next).FailsOnly shown (fault? shown declarations.sources) := by
  have same_fails := next_fails request declared unbound
  cases kind with
  | importAlias =>
      simp only [StageKind.intercept, expandAlias]
      split
      · exact next_fails _ declared unbound
      · exact same_fails
  | semanticBinding =>
      rw [intercept_unconsulted (by simp [Request.consultation?, unbound])]
      exact same_fails
  | explicitImport | stdlib =>
      simp only [StageKind.intercept]
      split
      · exact answer_failsOnly _ _
      · exact same_fails
  | declarationLookup =>
      simp only [StageKind.intercept, declared]
      exact lookUp_failsOnly same_fails _

/-- A chain of built-in stages without semantic bindings fails only if a search among the
declarations does. -/
theorem chain_failsOnly (kinds : List StageKind) {request : Request}
    {declarations : Collection DeclaredName} (declared : request.declarations = some declarations)
    (unbound : request.binding = none) :
    (Chain.run (kinds.map StageKind.stage) request).FailsOnly shown
      (fault? shown declarations.sources) := by
  induction kinds generalizing request with
  | nil => exact answer_failsOnly none _
  | cons kind kinds ih =>
      rw [run_cons]
      exact intercept_failsOnly kind declared unbound fun _ => ih

end Failures

namespace Forecast

variable (forecast : Forecast)

/-- The resolver with or without a cache. -/
def resolver (cache : Option Nat) : Resolver :=
  ⟨forecast.kinds.map StageKind.stage, forecast.stdlib, none, some forecast.declarations, cache⟩

/-- The request for an occurrence. -/
def request (occurrence : Occurrence) : Request :=
  (forecast.resolver none).request occurrence.1 occurrence.2.text occurrence.2.language none

/-- The course of the request for an occurrence. -/
def work (occurrence : Occurrence) : Resolving :=
  Chain.run (forecast.kinds.map StageKind.stage) (forecast.request occurrence)

theorem work_direct (occurrence : Occurrence) :
    (forecast.work occurrence).Within (direct forecast.declarations.merged) := by
  refine chain_within forecast.kinds ⟨fun _ => trivial, ?_, ?_, fun unbound => nomatch unbound⟩
  · rintro declarations ⟨rfl⟩
    rfl
  · rintro declarations ⟨rfl⟩
    exact forecast.sources_before

/-- The answer to an occurrence. -/
def answer (occurrence : Occurrence) : Outcome Answer :=
  ((forecast.work occurrence).value? forecast.shown).getD (.ok none)

theorem value?_work (occurrence : Occurrence) :
    (forecast.work occurrence).value? forecast.shown = some (forecast.answer occurrence) := by
  obtain ⟨value, valued⟩ :=
    Computation.exists_value? (forecast.work_direct occurrence) forecast.shown
  rw [answer, valued, Option.getD_some]

/-- Only one error can be the answer to an occurrence. -/
theorem fault_of_answer {occurrence : Occurrence} {error : Error}
    (failed : forecast.answer occurrence = .error error) :
    fault? forecast.shown forecast.declarations.sources = some error := by
  have valued := forecast.value?_work occurrence
  rw [failed] at valued
  exact chain_failsOnly forecast.kinds rfl rfl error valued

/-- The store foretells the outcomes of the sources, and nobody has merged them. -/
structure Holds (store : Store Event Payload) : Prop where
  foretold : store.Foretold forecast.shown forecast.declarations.merged
  /-- The merged list is a cell of the store. -/
  merged_lt : forecast.declarations.merged < store.size

variable {forecast}

/-- Running a request gives its answer, whatever has run before. -/
theorem Holds.run {store : Store Event Payload} (holds : forecast.Holds store)
    (occurrence : Occurrence) {bound : Nat} (merged_lt : forecast.declarations.merged < bound) :
    ∃ after, Store.advance (Store.pollBelow bound) (forecast.work occurrence) store =
        (.finish (forecast.answer occurrence), after) ∧ forecast.Holds after ∧
      ∀ cell, forecast.declarations.merged ≤ cell → after.state? cell = store.state? cell := by
  obtain ⟨after, advanced, foretold, kept⟩ := Store.Foretold.advance (Nat.le_of_lt merged_lt)
    (forecast.work_direct occurrence) (forecast.value?_work occurrence) holds.foretold
  refine ⟨after, advanced, ⟨foretold, ?_⟩, kept⟩
  have order := Store.precedes_advance (fun store cell => Store.precedes_pollBelow bound cell store)
    (forecast.work occurrence) store
  rw [advanced] at order
  exact Nat.lt_of_lt_of_le holds.merged_lt order.size_le

/-- Without a cache every occurrence gets its own answer. -/
theorem resolve_plain {world : World} (holds : forecast.Holds world.store)
    (occurrence : Occurrence) :
    ∃ after, (forecast.resolver none).resolve occurrence.1 occurrence.2.text occurrence.2.language
        world = (.finished (forecast.answer occurrence), after) ∧ forecast.Holds after.store := by
  obtain ⟨after, advanced, still_holds, _⟩ := holds.run occurrence holds.merged_lt
  exact ⟨{ world with store := after }, Resolver.runDirectly_of_run advanced, still_holds⟩

/-! ## Answers from a cache -/

variable (forecast) in
/-- The key of an occurrence. -/
def keyOf (occurrence : Occurrence) : CacheKey := Resolver.keyOf (forecast.request occurrence)

variable (forecast) in
/-- The first of several occurrences with a key. -/
def first? (asked : List Occurrence) (key : CacheKey) : Option Occurrence :=
  asked.find? fun occurrence => forecast.keyOf occurrence == key

variable (forecast) in
/-- The cache has an entry for every key that has been asked for, with the answer to the first
occurrence that had it. -/
structure Records (asked : List Occurrence) (world : World) : Prop where
  holds : forecast.Holds world.store
  /-- There is a cache. -/
  has_cache : 0 < world.caches.length
  found : ∀ key cell, (world.cacheAt 0).cell? key = some cell →
    forecast.declarations.merged < cell ∧ ∃ first, forecast.first? asked key = some first ∧
      world.store.state? cell = some (.ofRest
        ((Computation.finish (forecast.answer first)).mapOk Payload.answer))
  /-- The keys without an entry. -/
  absent : ∀ key, (world.cacheAt 0).cell? key = none → forecast.first? asked key = none

theorem first?_append (asked : List Occurrence) (occurrence : Occurrence) (key : CacheKey) :
    forecast.first? (asked ++ [occurrence]) key =
      (forecast.first? asked key).or
        (if forecast.keyOf occurrence = key then some occurrence else none) := by
  simp only [first?, List.find?_append, List.find?_singleton, beq_iff_eq]

/-- A settled entry is given out as it is. -/
theorem run_settled {store : Store Event Payload} {cell : Nat} {outcome : Outcome Answer}
    (settled : store.state? cell =
      some (.ofRest ((Computation.finish outcome).mapOk Payload.answer))) :
    (store.run ((Computation.outcomeOf cell).mapOk Payload.toAnswer)).1.progress =
        .finished outcome ∧
      (store.run ((Computation.outcomeOf cell).mapOk Payload.toAnswer)).2 = store := by
  have known : ∃ value, store.outcome? cell = some value := by
    cases outcome <;> exact ⟨_, Store.outcome?_eq_some_iff.mpr settled⟩
  obtain ⟨value, known⟩ := known
  have unchanged : (store.run (Computation.outcomeOf cell)).2 = store := by
    rw [Store.run_outcomeOf_store, Store.start_of_settled known, Store.pollBelow_of_settled known]
  obtain ⟨ends, same_store⟩ := Store.run_kept Payload.toAnswer_answer (unchanged.symm ▸ settled)
  exact ⟨ends, same_store.trans unchanged⟩

/-- Waiting for a new entry leaves the answer to its occurrence there, and no other entry changes.
-/
theorem Holds.run_new {store : Store Event Payload} (holds : forecast.Holds store)
    (occurrence : Occurrence) (needed : List Nat) :
    let deferred := (store.defer ((forecast.work occurrence).mapOk Payload.answer) needed).2
    let served := deferred.run ((Computation.outcomeOf store.size).mapOk Payload.toAnswer)
    served.1.progress = .finished (forecast.answer occurrence) ∧ forecast.Holds served.2 ∧
      served.2.state? store.size = some (.ofRest
        ((Computation.finish (forecast.answer occurrence)).mapOk Payload.answer)) ∧
      ∀ cell, forecast.declarations.merged < cell → cell ≠ store.size →
        served.2.state? cell = store.state? cell := by
  intro deferred served
  have deferred_size : store.size < deferred.size := by
    simp [deferred, Store.defer]
  have started_state : ∀ cell, (deferred.start store.size).state? cell =
      if cell = store.size then some (.running ((forecast.work occurrence).mapOk Payload.answer))
      else store.state? cell := by
    intro cell
    simp only [deferred, Store.defer, Store.state?_start, Store.state?_allocate]
    by_cases new : cell = store.size
    · simp [new, CellState.started]
    · simp [new, Ne.symm new]
  have started_holds : forecast.Holds (deferred.start store.size) := by
    refine ⟨holds.foretold.of_same fun cell before => ?_, ?_⟩
    · rw [started_state, if_neg (Nat.ne_of_lt (Nat.lt_of_le_of_lt before holds.merged_lt))]
    · rw [Store.size_start]
      exact Nat.lt_trans holds.merged_lt deferred_size
  obtain ⟨after, advanced, after_holds, kept⟩ := started_holds.run occurrence holds.merged_lt
  have running : (deferred.start store.size).state? store.size =
      some (.running ((forecast.work occurrence).mapOk Payload.answer)) := by
    rw [started_state, if_pos rfl]
  have waited : (deferred.run (Computation.outcomeOf store.size)).2 =
      after.modify store.size fun _ =>
        .ofRest ((Computation.finish (forecast.answer occurrence)).mapOk Payload.answer) := by
    rw [Store.run_outcomeOf_store, Store.pollBelow_of_lt deferred_size,
      Store.pollBelow_of_running running, Store.advance_mapOk, advanced]
  have left : (deferred.run (Computation.outcomeOf store.size)).2.state? store.size = some (.ofRest
      ((Computation.finish (forecast.answer occurrence)).mapOk Payload.answer)) := by
    rw [waited, Store.state?_modify, if_pos rfl, kept _ (Nat.le_of_lt holds.merged_lt), running,
      Option.map_some]
  obtain ⟨ends, same_store⟩ := Store.run_kept Payload.toAnswer_answer left
  have others : ∀ cell, cell ≠ store.size → served.2.state? cell = after.state? cell := by
    intro cell other
    rw [same_store, waited, Store.state?_modify, if_neg (Ne.symm other)]
  refine ⟨ends, ⟨after_holds.foretold.of_same fun cell before => ?_, ?_⟩, same_store ▸ left, ?_⟩
  · exact others cell (Nat.ne_of_lt (Nat.lt_of_le_of_lt before holds.merged_lt))
  · rw [same_store, waited, Store.size_modify]
    exact after_holds.merged_lt
  · intro cell beyond other
    rw [others cell other, kept cell (Nat.le_of_lt beyond), started_state, if_neg other]

/-- An occurrence whose key has an entry is answered from it. -/
theorem Records.resolve_found {asked : List Occurrence} {world : World}
    (records : forecast.Records asked world) {occurrence : Occurrence} {cell : Nat}
    (found : (world.cacheAt 0).cell? (forecast.keyOf occurrence) = some cell) :
    ∃ after first, (forecast.resolver (some 0)).resolve occurrence.1 occurrence.2.text
        occurrence.2.language world = (.finished (forecast.answer first), after) ∧
      forecast.first? (asked ++ [occurrence]) (forecast.keyOf occurrence) = some first ∧
      forecast.Records (asked ++ [occurrence]) after := by
  obtain ⟨_, first, is_first, settled⟩ := records.found _ cell found
  obtain ⟨ends, same_store⟩ := run_settled settled
  have resolved : (forecast.resolver (some 0)).dispatch (forecast.request occurrence) world = _ :=
    Resolver.dispatch_cached rfl (Cache.request_of_found found world.store _ _)
  rw [ends, same_store] at resolved
  have same_cache : World.cacheAt ⟨world.store, world.caches.set 0 (world.cacheAt 0)⟩ 0 =
      world.cacheAt 0 := by
    rw [World.cacheAt_set, if_pos ⟨rfl, records.has_cache⟩]
  refine ⟨_, first, resolved, ?_, records.holds, ?_, ?_, ?_⟩
  · rw [first?_append, is_first, Option.some_or]
  · rw [List.length_set]
    exact records.has_cache
  · intro key other entry
    rw [same_cache] at entry
    obtain ⟨beyond, second, is_second, second_settled⟩ := records.found key other entry
    refine ⟨beyond, second, ?_, second_settled⟩
    rw [first?_append, is_second, Option.some_or]
  · intro key missing
    rw [same_cache] at missing
    have other_key : forecast.keyOf occurrence ≠ key := by
      rintro rfl
      simp [found] at missing
    rw [first?_append, records.absent key missing, if_neg other_key, Option.or_none]

/-- An occurrence whose key has no entry is answered for itself, and the answer is kept. -/
theorem Records.resolve_absent {asked : List Occurrence} {world : World}
    (records : forecast.Records asked world) {occurrence : Occurrence}
    (missing : (world.cacheAt 0).cell? (forecast.keyOf occurrence) = none) :
    ∃ after first, (forecast.resolver (some 0)).resolve occurrence.1 occurrence.2.text
        occurrence.2.language world = (.finished (forecast.answer first), after) ∧
      forecast.first? (asked ++ [occurrence]) (forecast.keyOf occurrence) = some first ∧
      forecast.Records (asked ++ [occurrence]) after := by
  obtain ⟨ends, holds, settled, others⟩ :=
    records.holds.run_new occurrence (Resolver.neededBy (forecast.request occurrence))
  have resolved : (forecast.resolver (some 0)).dispatch (forecast.request occurrence) world = _ :=
    Resolver.dispatch_cached rfl (Cache.request_of_absent missing world.store _ _)
  have cell?_after : ∀ store key, (World.cacheAt ⟨store, world.caches.set 0
      ⟨(forecast.keyOf occurrence, world.store.size) :: (world.cacheAt 0).entries⟩⟩ 0).cell? key =
      if key = forecast.keyOf occurrence then some world.store.size
      else (world.cacheAt 0).cell? key := by
    intro store key
    rw [World.cacheAt_set, if_pos ⟨rfl, records.has_cache⟩, Cache.cell?_cons]
  refine ⟨_, occurrence, resolved.trans (congrArg (·, _) ends), ?_, holds, ?_, ?_, ?_⟩
  · rw [first?_append, records.absent _ missing, if_pos rfl, Option.none_or]
  · rw [List.length_set]
    exact records.has_cache
  · intro key cell entry
    rw [cell?_after] at entry
    split at entry
    · next same =>
      subst same
      obtain rfl := Option.some.inj entry
      refine ⟨records.holds.merged_lt, occurrence, ?_, settled⟩
      rw [first?_append, records.absent _ missing, if_pos rfl, Option.none_or]
    · obtain ⟨beyond, first, is_first, first_settled⟩ := records.found key cell entry
      have kept := others cell beyond (Nat.ne_of_lt (Store.lt_size_of_state? first_settled))
      refine ⟨beyond, first, ?_, kept.trans first_settled⟩
      rw [first?_append, is_first, Option.some_or]
  · intro key entry
    rw [cell?_after] at entry
    split at entry
    · simp at entry
    · next different =>
      rw [first?_append, records.absent key entry, if_neg (Ne.symm different), Option.or_none]

/-- With a cache every occurrence gets the answer to the first one that had its key. -/
theorem resolve_cached {asked : List Occurrence} {world : World}
    (records : forecast.Records asked world) (occurrence : Occurrence) :
    ∃ after first, (forecast.resolver (some 0)).resolve occurrence.1 occurrence.2.text
        occurrence.2.language world = (.finished (forecast.answer first), after) ∧
      forecast.first? (asked ++ [occurrence]) (forecast.keyOf occurrence) = some first ∧
      forecast.Records (asked ++ [occurrence]) after := by
  cases entry : (world.cacheAt 0).cell? (forecast.keyOf occurrence) with
  | some cell => exact records.resolve_found entry
  | none => exact records.resolve_absent entry

end Forecast

end Resolution

end SymbolResolver
