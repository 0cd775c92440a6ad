import SymbolResolver.Proofs.RepeatedStages
import SymbolResolver.Proofs.RetainedEntries

/-!
# Resolvers with the same lookups

Resolvers that share their stages, standard library and declarations pull the same sources in the
same order. So a request ends as it would have ended before any other of their requests
(`Peers.run_steady`). Their caches do not change this: behind a world with caches there is a plain
store in which every kept run has been made (`Peers.Backs`), and a request for a text gets from the
cache what its chain comes to in this store (`Peers.Backs.resolve`). Nothing is asked of the semantic
bindings for this, since no text is looked up there.
-/

namespace SymbolResolver

namespace Lazy

variable {ε ν α : Type} [Listed ν α]

theorem Collection.scanFirst_inOrder (test : α → Bool) (earlier sources : List (Source α)) :
    (scanFirst test sources : Computation ε ν (Outcome (Option α))).InOrder
      ((earlier ++ sources).map Source.cell) earlier.length := by
  induction sources generalizing earlier with
  | nil => trivial
  | cons source sources ih =>
      refine ⟨earlier.length, Nat.le_refl _, by simp, fun value => ?_, fun _ => trivial⟩
      have continued : (scanFirst test sources : Computation ε ν (Outcome (Option α))).InOrder
          ((earlier ++ source :: sources).map Source.cell)
          (max earlier.length (earlier.length + 1)) := by
        simpa using ih (earlier ++ [source])
      simp only [Computation.bind]
      cases (Listed.unwrap value : List α).find? test with
      | some found => trivial
      | none => exact continued

theorem Collection.first?_inOrder (collection : Collection α) (test : α → Bool) :
    (collection.first? test : Computation ε ν (Outcome (Option α))).InOrder
      (collection.sources.map Source.cell) 0 := by
  intro seen
  rcases seen with _ | (error | stored)
  · exact scanFirst_inOrder test [] collection.sources
  · exact scanFirst_inOrder test [] collection.sources
  · trivial

end Lazy

namespace Resolution

open Lazy

/-- The cells of the sources that a request may wait for, in the order of the sources. -/
def Request.sourceCells (request : Request) : List Nat :=
  (request.declarations.map fun declarations => declarations.sources.map Source.cell).getD []

theorem lookUp_inOrder (declarations : Collection DeclaredName)
    (candidates : List ReferenceName) :
    (lookUp declarations (.answer none) candidates).InOrder
      (declarations.sources.map Source.cell) 0 := by
  induction candidates with
  | nil => trivial
  | cons candidate candidates ih =>
      refine (declarations.first?_inOrder _).andThen fun found => ?_
      cases found with
      | some declared => trivial
      | none => exact ih

theorem intercept_inOrder (kind : StageKind) (request : Request) :
    (kind.intercept request fun _ => .answer none).InOrder request.sourceCells 0 := by
  cases kind with
  | importAlias => trivial
  | semanticBinding =>
      simp only [StageKind.intercept]
      split
      · rename_i binding node _ _
        simp only [Computation.InOrder]
        cases binding.consult node with
        | answer value =>
            simp only [useConsultation]
            split <;> trivial
        | failure error => trivial
        | breakOff => trivial
      · trivial
  | explicitImport =>
      simp only [StageKind.intercept]
      split <;> trivial
  | declarationLookup =>
      simp only [StageKind.intercept, Request.sourceCells]
      cases request.declarations with
      | none => trivial
      | some declarations => exact lookUp_inOrder declarations _
  | stdlib =>
      simp only [StageKind.intercept]
      split <;> trivial

/-- A chain of built-in stages waits for the sources of declarations in their order. -/
theorem chain_inOrder (kinds : List StageKind) (request : Request) :
    (Chain.run (kinds.map StageKind.stage) request).InOrder request.sourceCells 0 := by
  induction kinds generalizing request with
  | nil => trivial
  | cons kind kinds ih =>
      have same_cells : (kind.passed request).sourceCells = request.sourceCells := by
        have passed_eq := reaching_eq [kind] request
        rw [reaching_cons] at passed_eq
        rw [show kind.passed request = _ from passed_eq]
        rfl
      rw [run_cons, intercept_forwards]
      refine (intercept_inOrder kind request).andThen fun found => ?_
      cases found with
      | some reference => trivial
      | none => exact same_cells ▸ ih (kind.passed request)

/-! ## Requests over the same lookups -/

/-- Files with one identity are one file. -/
def OneFile (files : List FileContext) : Prop :=
  ∀ first ∈ files, ∀ second ∈ files, first.id = second.id → first = second

/-- Resolvers with the same lookups: the stages, the standard library and the declarations that they
share, the files that they are asked about, and the cells before any request. -/
structure Peers where
  kinds : List StageKind
  stdlib : StdlibLookup
  declarations : Option (Collection DeclaredName)
  /-- What the resolvers are asked about. -/
  files : List FileContext
  /-- The cells before any request. -/
  start : Store Event Payload
  one_file : OneFile files
  ordered : start.Ordered
  placed : ∀ collection, declarations = some collection → Placed start collection

namespace Peers

variable {peers : Peers}

/-- A request in one of the files, for a text or a node. -/
def Asks (peers : Peers) (request : Request) : Prop :=
  ∃ inquiry : Inquiry, inquiry.file ∈ peers.files ∧ ∃ text language,
    request = inquiry.request peers.stdlib peers.declarations text language

/-- The course of a request. -/
def work (peers : Peers) (request : Request) : Resolving :=
  Chain.run (peers.kinds.map StageKind.stage) request

/-- How a request ends that is the first of all. -/
def ending (peers : Peers) (request : Request) : Ending Answer :=
  (peers.start.run (peers.work request)).1.progress

/-- The cells that resolvers may wait for come before the merged declarations. -/
def limit (peers : Peers) : Nat := (peers.declarations.map Collection.merged).getD 0

theorem limit_le (peers : Peers) : peers.limit ≤ peers.start.size := by
  rw [limit]
  cases found : peers.declarations with
  | none => exact Nat.zero_le _
  | some collection => exact Nat.le_of_lt (peers.placed collection found).merged_lt

theorem Asks.declarations_eq {request : Request} (asks : peers.Asks request) :
    request.declarations = peers.declarations := by
  obtain ⟨inquiry, _, text, language, rfl⟩ := asks
  rfl

theorem work_reading {request : Request} (asks : peers.Asks request) :
    (peers.work request).Within (Store.reading peers.limit peers.start.size) := by
  have allows : request.Allows (Store.reading request.limit peers.start.size) :=
    Request.allows_reading fun collection found =>
      peers.placed collection (asks.declarations_eq ▸ found)
  rw [Request.limit, asks.declarations_eq] at allows
  exact chain_within peers.kinds allows

/-- The cells of the sources, in their order. -/
def cells (peers : Peers) : List Nat :=
  (peers.declarations.map fun declarations => declarations.sources.map Source.cell).getD []

theorem work_inOrder {request : Request} (asks : peers.Asks request) :
    (peers.work request).InOrder peers.cells 0 := by
  rw [cells, ← asks.declarations_eq]
  exact chain_inOrder peers.kinds request

theorem cells_before (peers : Peers) : ∀ cell ∈ peers.cells, cell < peers.limit := by
  intro cell member
  rw [cells] at member
  rw [limit]
  cases found : peers.declarations with
  | none => simp [found] at member
  | some collection =>
      simp only [found, Option.map_some, Option.getD_some, List.mem_map] at member ⊢
      obtain ⟨source, is_source, rfl⟩ := member
      exact (peers.placed collection found).sources_before source is_source

/-- A request makes no difference to the end of another one. -/
theorem run_steady {store : Store Event Payload} (ordered : store.Ordered)
    (size_eq : store.size = peers.start.size) {first second : Request}
    (first_asks : peers.Asks first) (second_asks : peers.Asks second) :
    ((store.run (peers.work first)).2.run (peers.work second)).1 =
      (store.run (peers.work second)).1 := by
  have later_size : (store.run (peers.work first)).2.size = store.size :=
    Store.size_advance _ _ store
  rw [Store.run, later_size, size_eq, Store.run, Store.run, size_eq]
  exact Store.advance_independent (work_inOrder first_asks) (work_inOrder second_asks)
    (work_reading first_asks) (work_reading second_asks) peers.limit_le peers.cells_before ordered
    size_eq

/-- Requests that give the stages the same to read end alike. -/
theorem ending_of_matches {request other : Request} (asks : peers.Asks request)
    (same : request.Matches other) : peers.ending request = peers.ending other := by
  have twins : Store.Twins peers.start.size [] peers.start peers.start := .refl peers.ordered
  exact (twins.advance_alike (Store.Twins.poll (Nat.le_refl _) (Nat.le_refl _))
    (chain_alike peers.kinds same)
    ((work_reading asks).mono (Store.reading_le_below peers.limit_le))).1

/-- A request without a node does not break off. -/
theorem ending_guarded {request : Request} (no_node : request.node = none) :
    (peers.ending request).guarded = peers.ending request := by
  refine Computation.guarded_of_unbroken (Store.rest_within
    (fun store cell => Store.precedes_pollBelow _ cell store) ?_ _)
  refine chain_within peers.kinds
    ⟨fun _ => trivial, fun _ _ => trivial, fun _ _ _ _ => trivial, fun broken => ?_⟩
  simp [Request.consultation?, no_node] at broken

/-- Without a node, the key of a request determines all that the stages can read. -/
theorem matches_of_key {request other : Request} (asks : peers.Asks request)
    (other_asks : peers.Asks other) (no_node : request.node = none)
    (same_key : Resolver.keyOf request = Resolver.keyOf other) : request.Matches other := by
  obtain ⟨inquiry, member, text, language, rfl⟩ := asks
  obtain ⟨second, second_member, second_text, second_language, rfl⟩ := other_asks
  have inquiry_node : inquiry.node = none := no_node
  refine Inquiry.matches_of_key same_key (peers.one_file _ member _ second_member)
    fun _ same_node => ?_
  have second_node : second.node = none := by
    rw [inquiry_node, Option.map_none, eq_comm, Option.map_eq_none_iff] at same_node
    exact same_node
  simp [Inquiry.consultation?, inquiry_node, second_node]

/-! ## The plain store behind caches -/

/-- A cell keeps the run of a request, and it stands under no key but that of the request. -/
structure Holds (peers : Peers) (used : Nat → Prop) (plain : Store Event Payload) (world : World)
    (cell : Nat) (origin : Request) : Prop where
  asks : peers.Asks origin
  shares : Store.Shares peers.limit Payload.answer plain world.store (peers.work origin) cell
  only_key : ∀ number, used number → ∀ key, (world.cacheAt number).cell? key = some cell →
    Resolver.keyOf origin = key

/-- A plain store stands behind a world with caches: it has gone through every run that a cell of the
caches keeps, and requests end in it as they would have ended first of all. -/
structure Backs (peers : Peers) (used : Nat → Prop) (plain : Store Event Payload) (world : World) :
    Prop where
  twins : ∃ extra, Store.Twins peers.start.size extra plain world.store
  steady : ∀ request, peers.Asks request →
    (plain.run (peers.work request)).1 = (peers.start.run (peers.work request)).1
  holds : ∀ cell, peers.start.size ≤ cell → cell < world.store.size →
    ∃ origin, peers.Holds used plain world cell origin
  entry : ∀ number, used number → ∀ key cell, (world.cacheAt number).cell? key = some cell →
    peers.start.size ≤ cell ∧ cell < world.store.size

variable {used : Nat → Prop} {plain : Store Event Payload} {world : World}

theorem Holds.later {cell : Nat} {origin : Request}
    (holds : peers.Holds used plain world cell origin) {later : Store Event Payload}
    (order : plain.Precedes later) (framed : Store.Framed peers.limit plain later)
    {store : Store Event Payload} (kept : store.state? cell = world.store.state? cell) :
    peers.Holds used later { world with store := store } cell origin :=
  ⟨holds.asks, holds.shares.mono order framed kept, holds.only_key⟩

/-- The plain store after another request. -/
theorem Backs.later (backs : peers.Backs used plain world) {request : Request}
    (asks : peers.Asks request) {store : Store Event Payload}
    (size_eq : store.size = world.store.size)
    (twins : ∃ extra, Store.Twins peers.start.size extra
      (plain.run (peers.work request)).2 store)
    (holds : ∀ cell, peers.start.size ≤ cell → store.state? cell = world.store.state? cell ∨
      ∃ origin, peers.Holds used (plain.run (peers.work request)).2 { world with store := store }
        cell origin) :
    peers.Backs used (plain.run (peers.work request)).2 { world with store := store } := by
  obtain ⟨extra, before⟩ := backs.twins
  refine ⟨twins, fun other other_asks => ?_, fun cell after inside => ?_, ?_⟩
  · exact (run_steady before.ordered before.size_eq asks other_asks).trans
      (backs.steady other other_asks)
  · rcases holds cell after with kept | held
    · obtain ⟨origin, held⟩ := backs.holds cell after (size_eq ▸ inside)
      exact ⟨origin, held.later (Store.precedes_run plain _)
        (Store.reader_course before.ordered (work_reading asks) _).1 kept⟩
    · exact held
  · intro number is_used key cell found
    obtain ⟨after, inside⟩ := backs.entry number is_used key cell found
    exact ⟨after, size_eq.symm ▸ inside⟩

/-- A request that runs its chain runs it as in the plain store. -/
theorem Backs.run (backs : peers.Backs used plain world) {request : Request}
    (asks : peers.Asks request) :
    let ran := world.store.run (peers.work request)
    ran.1.progress = peers.ending request ∧
      peers.Backs used (plain.run (peers.work request)).2 { world with store := ran.2 } := by
  intro ran
  obtain ⟨extra, twins⟩ := backs.twins
  have size_eq : ran.2.size = world.store.size := Store.size_advance _ _ _
  obtain ⟨rest_eq, run_twins⟩ := twins.advance
    (Store.Twins.poll (Nat.le_of_eq twins.size_eq.symm) twins.bound_le_size)
    ((work_reading asks).mono (Store.reading_le_below peers.limit_le))
  refine ⟨?_, backs.later asks size_eq ⟨extra, run_twins⟩ fun cell after => Or.inl ?_⟩
  · rw [ending, ← backs.steady request asks]
    exact congrArg Computation.progress rest_eq.symm
  · exact (run_twins.state?_extra after).trans (twins.state?_extra after).symm

/-- Whoever waits for a cell of the caches gets what its request comes to in the plain store. -/
theorem Backs.serve (backs : peers.Backs used plain world) {cell : Nat} {origin : Request}
    (after : peers.start.size ≤ cell) (holds : peers.Holds used plain world cell origin) :
    let served := world.store.run ((Computation.outcomeOf cell).mapOk Payload.toAnswer)
    served.1.progress = (peers.ending origin).guarded ∧
      peers.Backs used (plain.run (peers.work origin)).2 { world with store := served.2 } := by
  intro served
  obtain ⟨extra, twins⟩ := backs.twins
  have size_eq : served.2.size = world.store.size := Store.size_advance _ _ _
  obtain ⟨ends, still_twins, still_shares, others⟩ :=
    twins.share Payload.toAnswer_answer peers.limit_le (.refl _) (work_reading holds.asks)
      (work_reading holds.asks) after holds.shares
  refine ⟨?_, backs.later holds.asks size_eq still_twins fun other outside => ?_⟩
  · rw [ending, ← backs.steady origin holds.asks]
    exact ends
  · by_cases same_cell : other = cell
    · subst same_cell
      exact Or.inr ⟨origin, holds.asks, still_shares, holds.only_key⟩
    · exact Or.inl (others other outside same_cell)

/-- A plain store stands behind a world, too, in which entries have been removed. -/
theorem Backs.shrink (backs : peers.Backs used plain world) {fewer : World}
    (same_store : fewer.store = world.store)
    (kept : ∀ number key cell, (fewer.cacheAt number).cell? key = some cell →
      (world.cacheAt number).cell? key = some cell) : peers.Backs used plain fewer := by
  refine ⟨same_store.symm ▸ backs.twins, backs.steady, fun cell after inside => ?_, ?_⟩
  · obtain ⟨origin, asks, shares, only_key⟩ := backs.holds cell after (same_store ▸ inside)
    exact ⟨origin, asks, same_store.symm ▸ shares, fun number is_used key found =>
      only_key number is_used key (kept number key cell found)⟩
  · intro number is_used key cell found
    rw [same_store]
    exact backs.entry number is_used key cell (kept number key cell found)

/-- A request that finds no entry makes a new cell, which has the whole run before it. -/
theorem Backs.request_absent (backs : peers.Backs used plain world) {request : Request}
    (asks : peers.Asks request) (number : Nat) (needed : List Nat) :
    let made : World :=
      ⟨(world.store.defer ((peers.work request).mapOk Payload.answer) needed).2,
        world.caches.set number
          ⟨(Resolver.keyOf request, world.store.size) :: (world.cacheAt number).entries⟩⟩
    peers.Backs used plain made ∧ peers.Holds used plain made world.store.size request := by
  intro made
  obtain ⟨extra, twins⟩ := backs.twins
  have size_eq : made.store.size = world.store.size + 1 := Store.size_allocate _ _ _
  have state_eq : ∀ cell, made.store.state? cell = if cell = world.store.size then
      some (.pending ((peers.work request).mapOk Payload.answer)) else world.store.state? cell :=
    world.store.state?_allocate _ needed
  have new_held : peers.Holds used plain made world.store.size request := by
    refine ⟨asks, ⟨[], _, .stay _, Or.inl ((state_eq _).trans (if_pos rfl))⟩, ?_⟩
    intro other other_used key entry
    rcases World.entry_cases entry with ⟨rfl, _⟩ | old_entry
    · rfl
    · exact absurd (backs.entry other other_used key _ old_entry).2 (Nat.lt_irrefl _)
  refine ⟨⟨⟨_, twins.allocate _ needed⟩, backs.steady, fun cell after inside => ?_, ?_⟩, new_held⟩
  · by_cases is_new : cell = world.store.size
    · exact ⟨request, is_new ▸ new_held⟩
    · obtain ⟨origin, origin_asks, shares, only_key⟩ := backs.holds cell after (by omega)
      refine ⟨origin, origin_asks, shares.mono (.refl _) (.refl twins.ordered _)
        ((state_eq cell).trans (if_neg is_new)), fun other other_used key entry => ?_⟩
      rcases World.entry_cases entry with ⟨_, same⟩ | old_entry
      · exact absurd same is_new
      · exact only_key other other_used key old_entry
  · intro other other_used key cell entry
    rcases World.entry_cases entry with ⟨_, rfl⟩ | old_entry
    · exact ⟨twins.bound_le_size, by omega⟩
    · obtain ⟨after, inside⟩ := backs.entry other other_used key cell old_entry
      exact ⟨after, by omega⟩

/-- The cell that a request waits for keeps the run of a request with its key. -/
theorem Backs.request (backs : peers.Backs used plain world) {request : Request}
    (asks : peers.Asks request) {number : Nat} (is_used : used number) {needed : List Nat}
    {cell : Nat} {cache : Cache} {store : Store Event Payload}
    (made : (world.cacheAt number).request world.store (Resolver.keyOf request)
      ((peers.work request).mapOk Payload.answer) needed = (cell, cache, store)) :
    peers.Backs used plain ⟨store, world.caches.set number cache⟩ ∧ peers.start.size ≤ cell ∧
      ∃ origin, peers.Holds used plain ⟨store, world.caches.set number cache⟩ cell origin ∧
        Resolver.keyOf origin = Resolver.keyOf request := by
  cases found : (world.cacheAt number).cell? (Resolver.keyOf request) with
  | some entry =>
      rw [Cache.request_of_found found] at made
      obtain ⟨rfl, rfl, rfl⟩ := made
      have same_caches := World.cacheAt_set_self world number
      have same_backs : peers.Backs used plain
          ⟨world.store, world.caches.set number (world.cacheAt number)⟩ :=
        backs.shrink rfl fun other key cell entry => same_caches other ▸ entry
      obtain ⟨after, inside⟩ := backs.entry number is_used _ _ found
      obtain ⟨origin, holds⟩ := same_backs.holds _ after inside
      exact ⟨same_backs, after, origin, holds,
        holds.only_key number is_used _ (by rw [same_caches]; exact found)⟩
  | none =>
      rw [Cache.request_of_absent found] at made
      obtain ⟨rfl, rfl, rfl⟩ := made
      obtain ⟨extra, twins⟩ := backs.twins
      obtain ⟨made_backs, holds⟩ := backs.request_absent asks number needed
      exact ⟨made_backs, twins.bound_le_size, request, holds, rfl⟩

/-! ## Requests and calls -/

/-- A world that resolvers with the same lookups have come to: there is a plain store behind it. -/
def Stands (peers : Peers) (used : Nat → Prop) (world : World) : Prop :=
  ∃ plain, peers.Backs used plain world

/-- A resolver with these lookups. If it has a cache, it is one of the used ones. -/
structure Includes (peers : Peers) (used : Nat → Prop) (resolver : Resolver) : Prop where
  stages : resolver.stages = peers.kinds.map StageKind.stage
  stdlib : resolver.stdlib = peers.stdlib
  declarations : resolver.declarations = peers.declarations
  cached : ∀ number, resolver.cache = some number → used number

theorem Includes.asks {resolver : Resolver} (included : peers.Includes used resolver)
    {file : FileContext} (member : file ∈ peers.files) (text : String) (language : Language)
    (node : Option SyntaxNode) : peers.Asks (resolver.request file text language node) := by
  refine ⟨⟨resolver.binding, file, node⟩, member, text, language, ?_⟩
  rw [Resolver.request, included.stdlib, included.declarations]
  rfl

theorem Includes.uncached {resolver : Resolver} (included : peers.Includes used resolver) :
    peers.Includes used resolver.uncached :=
  ⟨included.stages, included.stdlib, included.declarations, nofun⟩

/-- A request ends as a request with its key would have ended first of all. -/
theorem Stands.dispatch (stands : peers.Stands used world) {resolver : Resolver}
    (included : peers.Includes used resolver) {request : Request} (asks : peers.Asks request) :
    let dispatched := resolver.dispatch request world
    (∃ origin, peers.Asks origin ∧ Resolver.keyOf origin = Resolver.keyOf request ∧
      (dispatched.1 = peers.ending origin ∨ dispatched.1 = (peers.ending origin).guarded)) ∧
      peers.Stands used dispatched.2 := by
  intro dispatched
  obtain ⟨plain, backs⟩ := stands
  cases has_cache : resolver.cache with
  | none =>
      obtain ⟨ends, ran_backs⟩ := backs.run asks
      have run_eq : dispatched = Resolver.runDirectly (peers.work request) world := by
        simp only [dispatched, Resolver.dispatch, has_cache, included.stages]
        rfl
      rw [run_eq]
      exact ⟨⟨request, asks, rfl, Or.inl ends⟩, _, ran_backs⟩
  | some number =>
      obtain ⟨⟨cell, cache, store⟩, made⟩ : ∃ made, (world.cacheAt number).request world.store
          (Resolver.keyOf request) ((peers.work request).mapOk Payload.answer)
          (Resolver.neededBy request) = made := ⟨_, rfl⟩
      obtain ⟨made_backs, after, origin, holds, same_key⟩ :=
        backs.request asks (included.cached number has_cache) made
      obtain ⟨ends, served_backs⟩ := made_backs.serve after holds
      rw [work, ← included.stages] at made
      rw [show dispatched = _ from Resolver.dispatch_cached has_cache made]
      exact ⟨⟨origin, holds.asks, same_key, Or.inr ends⟩, _, served_backs⟩

/-- A text gets the answer that it would have got first of all. -/
theorem Stands.resolve (stands : peers.Stands used world) {resolver : Resolver}
    (included : peers.Includes used resolver) {file : FileContext} (member : file ∈ peers.files)
    (text : String) (language : Language) :
    let resolved := resolver.resolve file text language world
    resolved.1 = peers.ending (resolver.request file text language none) ∧
      peers.Stands used resolved.2 := by
  have asks := included.asks member text language none
  obtain ⟨⟨origin, origin_asks, same_key, ends⟩, stands_on⟩ := stands.dispatch included asks
  have same_ending := ending_of_matches asks (matches_of_key asks origin_asks rfl same_key.symm)
  rw [← same_ending, ending_guarded rfl, or_self] at ends
  exact ⟨ends, stands_on⟩

theorem Stands.resolveEach (stands : peers.Stands used world) {resolver : Resolver}
    (included : peers.Includes used resolver) {file : FileContext} (member : file ∈ peers.files)
    (references : List ReferenceName) :
    peers.Stands used (resolver.resolveEach file references world).2 :=
  resolver.resolveEach_keeps (peers.Stands used)
    (fun text language _ stands => (stands.resolve included member text language).2) references
    stands

theorem Stands.resolveAll (stands : peers.Stands used world) {resolver : Resolver}
    (included : peers.Includes used resolver) {file : FileContext} (member : file ∈ peers.files)
    (references : List ReferenceName) :
    peers.Stands used (resolver.resolveAll file references world).2 :=
  World.andThen_keeps (peers.Stands used) (stands.resolveEach included member references)
    fun _ _ stands_last => stands_last

theorem Stands.invalidate (stands : peers.Stands used world) (resolver : Resolver)
    (file : FileId) : peers.Stands used (resolver.invalidate file world) := by
  obtain ⟨plain, backs⟩ := stands
  exact ⟨plain, backs.shrink (resolver.store_invalidate file world)
    fun _ _ _ => World.entry_of_invalidate⟩

theorem Stands.clear (stands : peers.Stands used world) (resolver : Resolver) :
    peers.Stands used (resolver.clear world) := by
  obtain ⟨plain, backs⟩ := stands
  exact ⟨plain, backs.shrink (resolver.store_clear world) fun _ _ _ => World.entry_of_clear⟩

/-- A new cache has no entries, and whoever uses it gets what the others get. -/
theorem Stands.addCache (stands : peers.Stands used world) :
    peers.Stands (fun number => used number ∨ number = world.addCache.1) world.addCache.2 := by
  have same_caches : ∀ number, world.addCache.2.cacheAt number = world.cacheAt number := by
    intro number
    simp only [World.addCache, World.cacheAt, List.getElem?_append]
    split
    · rfl
    · next outside =>
      rw [List.getElem?_eq_none (Nat.le_of_not_lt outside)]
      cases number - world.caches.length <;> rfl
  have new_empty : world.cacheAt world.addCache.1 = .empty := by
    simp [World.addCache, World.cacheAt]
  have in_used : ∀ number key cell, used number ∨ number = world.addCache.1 →
      (world.addCache.2.cacheAt number).cell? key = some cell →
      used number ∧ (world.cacheAt number).cell? key = some cell := by
    rintro number key cell (is_used | rfl) entry
    · exact ⟨is_used, same_caches number ▸ entry⟩
    · rw [same_caches, new_empty] at entry
      cases entry
  obtain ⟨plain, backs⟩ := stands
  refine ⟨plain, backs.twins, backs.steady, fun cell after inside => ?_, ?_⟩
  · obtain ⟨origin, asks, shares, only_key⟩ := backs.holds cell after inside
    refine ⟨origin, asks, shares, fun number is_used key entry => ?_⟩
    obtain ⟨old_used, old_entry⟩ := in_used number key cell is_used entry
    exact only_key number old_used key old_entry
  · intro number is_used key cell entry
    obtain ⟨old_used, old_entry⟩ := in_used number key cell is_used entry
    exact backs.entry number old_used key cell old_entry

theorem Stands.call (stands : peers.Stands used world) {resolver : Resolver}
    (included : peers.Includes used resolver) {call : Call}
    (leaves_chain : call.leavesChain = true)
    (members : ∀ inquiry ∈ call.inquiries resolver.binding, inquiry.file ∈ peers.files) :
    peers.Stands used (resolver.call world call).2 := by
  refine resolver.call_keeps (peers.Stands used) ?_ ?_ ?_ ?_ stands
  · intro inquiry member text language world stands
    exact (stands.dispatch included
      (included.asks (members inquiry member) text language inquiry.node)).2
  · rintro stages request rfl
    cases leaves_chain
  · exact fun file _ => stands.invalidate resolver file
  · exact fun _ => stands.clear resolver

theorem Stands.callAll (stands : peers.Stands used world) (calls : List (Resolver × Call))
    (included : ∀ entry ∈ calls, peers.Includes used entry.1)
    (leave_chain : ∀ entry ∈ calls, entry.2.leavesChain = true)
    (members : ∀ inquiry ∈ inquiriesOf calls, inquiry.file ∈ peers.files) :
    peers.Stands used (Resolver.callAll world calls).2 := by
  induction calls generalizing world with
  | nil => exact stands
  | cons entry calls ih =>
      obtain ⟨resolver, call⟩ := entry
      rw [List.forall_mem_cons] at included leave_chain
      rw [inquiriesOf, List.flatMap_cons, List.forall_mem_append] at members
      exact ih (stands.call included.1 leave_chain.1 members.1) included.2 leave_chain.2 members.2

/-- Before any request the store is the plain one. -/
theorem stands_start {world : World} (store_eq : world.store = peers.start)
    (unused : ∀ number, used number → world.cacheAt number = .empty) :
    peers.Stands used world := by
  refine ⟨peers.start, ⟨[], ?_⟩, fun _ _ => rfl, ?_, ?_⟩
  · rw [store_eq]
    exact .refl peers.ordered
  · intro cell after inside
    exact absurd inside (store_eq ▸ Nat.not_lt_of_le after)
  · intro number is_used key cell entry
    simp [unused number is_used] at entry

end Peers

end Resolution

end SymbolResolver
