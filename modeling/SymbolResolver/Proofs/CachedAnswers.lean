import SymbolResolver.Proofs.BuiltInChains
import SymbolResolver.Resolution.Script

/-!
# Answers from caches

Resolvers with the same built-in stages, standard library and declarations answer from their caches
what they would answer without any. The world with caches mirrors a world in which every request
runs its chain: the declarations are in the same state, and every entry of a cache keeps a run that
the plain world would go through again (`Family.Mirrors`). Every call preserves this and gives the
same result in both worlds.
-/

namespace SymbolResolver

namespace Resolution

open Lazy

/-! ## Inquiries -/

/-- What a request is about, apart from its text: the semantic bindings at hand, the file and the
node. -/
structure Inquiry where
  binding : Option Binding
  file : FileContext
  node : Option SyntaxNode

/-- The request of an inquiry for a text. -/
def Inquiry.request (inquiry : Inquiry) (stdlib : StdlibLookup)
    (declarations : Option (Collection DeclaredName)) (text : String) (language : Language) :
    Request :=
  { Request.ofText inquiry.file text language stdlib with
    binding := inquiry.binding, node := inquiry.node, declarations := declarations }

/-- What the semantic bindings answer to an inquiry, if they are asked. -/
def Inquiry.consultation? (inquiry : Inquiry) : Option Consultation :=
  match inquiry.binding, inquiry.node with
  | some binding, some node => some (binding.consult node)
  | _, _ => none

/-- The keys of requests determine all that the stages can read, if they determine the file and what
the semantic bindings answer. -/
theorem Inquiry.matches_of_key {inquiry other : Inquiry} {stdlib : StdlibLookup}
    {declarations : Option (Collection DeclaredName)} {text other_text : String}
    {language other_language : Language}
    (same_key : Resolver.keyOf (inquiry.request stdlib declarations text language) =
      Resolver.keyOf (other.request stdlib declarations other_text other_language))
    (file_eq : inquiry.file.id = other.file.id → inquiry.file = other.file)
    (consultation_eq : inquiry.file.id = other.file.id →
      inquiry.node.map SyntaxNode.id = other.node.map SyntaxNode.id →
        inquiry.consultation? = other.consultation?) :
    (inquiry.request stdlib declarations text language).Matches
      (other.request stdlib declarations other_text other_language) := by
  simp only [Resolver.keyOf, CacheKey.mk.injEq] at same_key
  obtain ⟨same_id, same_text, same_language, same_node⟩ := same_key
  exact
    { file := file_eq same_id
      reference := by
        simp only [Inquiry.request, Request.ofText, Request.language] at same_text same_language ⊢
        rw [ReferenceName.mk.injEq]
        exact ⟨same_text, same_language⟩
      written := same_text
      stdlib := rfl
      declarations := rfl
      consultation := consultation_eq same_id same_node }

/-- What a call on a resolver with given bindings is about. -/
def Call.inquiries (binding : Option Binding) : Call → List Inquiry
  | .resolve file _ _ => [⟨binding, file, none⟩]
  | .resolveNode file node _ => [⟨binding, file, some node⟩]
  | .resolveAll file _ => [⟨binding, file, none⟩]
  | .resolveTogether texts => texts.map fun entry => ⟨binding, entry.1, none⟩
  | _ => []

/-- What several calls are about. -/
def inquiriesOf (calls : List (Resolver × Call)) : List Inquiry :=
  calls.flatMap fun (resolver, call) => call.inquiries resolver.binding

/-- Whether a call leaves the chain to the resolver. -/
def Call.leavesChain : Call → Bool
  | .runChain _ _ => false
  | _ => true

/-- What a call tells about references. Replies about the cache itself tell nothing. -/
def CallReply.result? : CallReply → Option CallReply
  | .answer ending => some (.answer ending)
  | .answers endings => some (.answers endings)
  | .summary ending => some (.summary ending)
  | _ => none

/-- The reply as those see it who wait for cells. -/
def CallReply.guarded : CallReply → CallReply
  | .answer ending => .answer ending.guarded
  | .answers endings => .answers (endings.map Computation.Progress.guarded)
  | .summary ending => .summary ending.guarded
  | reply => reply

/-- Files with one identity are one file, and what the semantic bindings answer depends on the
identities of file and node alone. -/
structure Consistent (inquiries : List Inquiry) : Prop where
  file_eq : ∀ first ∈ inquiries, ∀ second ∈ inquiries,
    first.file.id = second.file.id → first.file = second.file
  consultation_eq : ∀ first ∈ inquiries, ∀ second ∈ inquiries, first.file.id = second.file.id →
    first.node.map SyntaxNode.id = second.node.map SyntaxNode.id →
    first.consultation? = second.consultation?

/-- Resolvers that differ in their caches and bindings only, with all that they are asked about. The
cells of the plain world are those before the bound. -/
structure Family where
  kinds : List StageKind
  stdlib : StdlibLookup
  declarations : Option (Collection DeclaredName)
  /-- What the resolvers are asked about. -/
  inquiries : List Inquiry
  /-- The number of cells of the plain world. -/
  bound : Nat
  consistent : Consistent inquiries
  sources_before : ∀ collection, declarations = some collection →
    ∀ source ∈ collection.sources, source.cell < collection.merged
  merged_lt : ∀ collection, declarations = some collection → collection.merged < bound

namespace Family

variable {family : Family}

/-- The cells that resolvers may wait for come before the merged declarations. -/
def limit (family : Family) : Nat := (family.declarations.map Collection.merged).getD 0

theorem limit_eq {collection : Collection DeclaredName}
    (found : family.declarations = some collection) : family.limit = collection.merged := by
  simp [limit, found]

theorem limit_le (family : Family) : family.limit ≤ family.bound := by
  cases found : family.declarations with
  | none => simp [limit, found]
  | some collection =>
      rw [limit_eq found]
      exact Nat.le_of_lt (family.merged_lt collection found)

/-- A request for something that the resolvers are asked about. -/
def Asks (family : Family) (request : Request) : Prop :=
  ∃ inquiry ∈ family.inquiries, ∃ text language,
    request = inquiry.request family.stdlib family.declarations text language

/-- The course of a request. -/
def work (family : Family) (request : Request) : Resolving :=
  Chain.run (family.kinds.map StageKind.stage) request

/-- The chain of a request only reads the declarations. -/
theorem work_reading {request : Request} (asks : family.Asks request) :
    (family.work request).Within (Store.reading family.limit family.bound) := by
  obtain ⟨inquiry, _, text, language, rfl⟩ := asks
  refine chain_within family.kinds ⟨fun _ => trivial, ?_, ?_, fun _ => trivial⟩
  · intro collection found
    exact ⟨Nat.le_of_eq (limit_eq found), family.merged_lt collection found⟩
  · intro collection found source member
    rw [Store.reading, limit_eq found]
    exact family.sources_before collection found source member

/-- The semantic bindings always answer. -/
def Unbroken (family : Family) : Prop :=
  ∀ inquiry ∈ family.inquiries, inquiry.consultation? ≠ some .breakOff

/-- The chain of a request breaks off only if the semantic bindings do. -/
theorem work_unbroken {request : Request} (asks : family.Asks request)
    (unbroken : family.Unbroken) :
    (family.work request).Within { broken := False } := by
  obtain ⟨inquiry, member, text, language, rfl⟩ := asks
  exact chain_within family.kinds
    ⟨fun _ => trivial, fun _ _ => trivial, fun _ _ _ _ => trivial, unbroken inquiry member⟩

/-- The key of a request determines all that the stages can read. -/
theorem matches_of_key {request other : Request} (asks : family.Asks request)
    (other_asks : family.Asks other) (same_key : Resolver.keyOf request = Resolver.keyOf other) :
    request.Matches other := by
  obtain ⟨inquiry, member, text, language, rfl⟩ := asks
  obtain ⟨second, second_member, second_text, second_language, rfl⟩ := other_asks
  exact Inquiry.matches_of_key same_key
    (family.consistent.file_eq inquiry member second second_member)
    (family.consistent.consultation_eq inquiry member second second_member)

end Family

/-- The resolver without its cache. -/
def Resolver.uncached (resolver : Resolver) : Resolver := { resolver with cache := none }

/-- The cache of a number. -/
def World.cacheAt (world : World) (number : Nat) : Cache := world.caches[number]?.getD .empty

theorem World.cacheAt_set (store : Store Event Payload) (caches : List Cache) (number other : Nat)
    (cache : Cache) :
    World.cacheAt ⟨store, caches.set number cache⟩ other =
      if number = other ∧ number < caches.length then cache
      else World.cacheAt ⟨store, caches⟩ other := by
  simp only [World.cacheAt, List.getElem?_set]
  by_cases same : number = other
  · subst same
    by_cases inside : number < caches.length
    · simp [inside]
    · simp [inside]
  · simp [same]

theorem World.cacheAt_set_self (world : World) (number other : Nat) :
    World.cacheAt ⟨world.store, world.caches.set number (world.cacheAt number)⟩ other =
      world.cacheAt other := by
  rw [World.cacheAt_set]
  split
  · next at_number => rw [at_number.1]
  · rfl

/-- Where a cache has got a new entry, every entry is the new one or an old one. -/
theorem World.entry_cases {world : World} {store : Store Event Payload} {number other : Nat}
    {key new_key : CacheKey} {cell new_cell : Nat}
    (entry : (World.cacheAt ⟨store, world.caches.set number
      ⟨(new_key, new_cell) :: (world.cacheAt number).entries⟩⟩ other).cell? key = some cell) :
    key = new_key ∧ cell = new_cell ∨ (world.cacheAt other).cell? key = some cell := by
  rw [World.cacheAt_set] at entry
  split at entry
  · next at_number =>
    rw [Cache.cell?_cons] at entry
    split at entry
    · next same => exact Or.inl ⟨same, (Option.some.inj entry).symm⟩
    · exact Or.inr (at_number.1 ▸ entry)
  · exact Or.inr entry

theorem Resolver.cell?_invalidate (resolver : Resolver) (file : FileId) (world : World)
    (number : Nat) (key : CacheKey) :
    ((resolver.invalidate file world).cacheAt number).cell? key =
      if resolver.cache = some number ∧ key.file = file then none
      else (world.cacheAt number).cell? key := by
  cases cached : resolver.cache with
  | none => simp [invalidate, cached]
  | some other =>
      simp only [invalidate, cached, World.cacheAt, List.getElem?_modify]
      by_cases same : other = number
      · cases world.caches[number]? <;> simp [same, Cache.cell?_invalidate]
      · simp [same]

theorem Resolver.cell?_clear (resolver : Resolver) (world : World) (number : Nat)
    (key : CacheKey) :
    ((resolver.clear world).cacheAt number).cell? key =
      if resolver.cache = some number then none else (world.cacheAt number).cell? key := by
  cases cached : resolver.cache with
  | none => simp [clear, cached]
  | some other =>
      simp only [clear, cached, World.cacheAt, List.getElem?_set]
      by_cases same : other = number
      · subst same
        by_cases inside : other < world.caches.length <;> simp [inside]
      · simp [same]

theorem Resolver.store_invalidate (resolver : Resolver) (file : FileId) (world : World) :
    (resolver.invalidate file world).store = world.store := by
  unfold invalidate
  split <;> rfl

theorem Resolver.store_clear (resolver : Resolver) (world : World) :
    (resolver.clear world).store = world.store := by
  unfold clear
  split <;> rfl

/-- What is found after the removal of a file was there before. -/
theorem World.entry_of_invalidate {world : World} {resolver : Resolver} {file : FileId}
    {number : Nat} {key : CacheKey} {cell : Nat}
    (entry : ((resolver.invalidate file world).cacheAt number).cell? key = some cell) :
    (world.cacheAt number).cell? key = some cell := by
  rw [Resolver.cell?_invalidate] at entry
  split at entry
  · cases entry
  · exact entry

theorem World.entry_of_clear {world : World} {resolver : Resolver} {number : Nat} {key : CacheKey}
    {cell : Nat} (entry : ((resolver.clear world).cacheAt number).cell? key = some cell) :
    (world.cacheAt number).cell? key = some cell := by
  rw [Resolver.cell?_clear] at entry
  split at entry
  · cases entry
  · exact entry

/-- With a cache a request waits for the cell of its key. -/
theorem Resolver.dispatch_cached {resolver : Resolver} {number : Nat}
    (has_cache : resolver.cache = some number) {request : Request} {world : World} {cell : Nat}
    {cache : Cache} {store : Store Event Payload}
    (made : (world.cacheAt number).request world.store (keyOf request)
      ((Chain.run resolver.stages request).mapOk Payload.answer) (neededBy request) =
        (cell, cache, store)) :
    resolver.dispatch request world =
      ((store.run ((Computation.outcomeOf cell).mapOk Payload.toAnswer)).1.progress,
        ⟨(store.run ((Computation.outcomeOf cell).mapOk Payload.toAnswer)).2,
          world.caches.set number cache⟩) := by
  rw [World.cacheAt] at made
  simp only [dispatch, has_cache, made, runDirectly]

namespace Family

variable {family : Family} {used : Nat → Prop}

/-- A cell keeps the run of a request with the given key. -/
def Serves (family : Family) (plain wide : Store Event Payload) (key : CacheKey) (cell : Nat) :
    Prop :=
  family.bound ≤ cell ∧ ∃ origin, family.Asks origin ∧ Resolver.keyOf origin = key ∧
    Store.Shares family.limit Payload.answer plain wide (family.work origin) cell

/-- A world with caches mirrors a plain one: the cells of the plain world are the same, and every
entry of the used caches keeps a run that the plain world would go through again. -/
structure Mirrors (family : Family) (used : Nat → Prop) (plain cached : World) : Prop where
  twins : ∃ extra, Store.Twins family.bound extra plain.store cached.store
  serves : ∀ number, used number → ∀ key cell,
    (cached.cacheAt number).cell? key = some cell → family.Serves plain.store cached.store key cell
  /-- A cell stands under one key. -/
  one_key : ∀ number, used number → ∀ key cell, (cached.cacheAt number).cell? key = some cell →
    ∀ other, used other → ∀ second, (cached.cacheAt other).cell? second = some cell → second = key

theorem lt_size_of_serves {plain wide : Store Event Payload} {key : CacheKey} {cell : Nat}
    (serves : family.Serves plain wide key cell) : cell < wide.size := by
  obtain ⟨_, origin, _, _, trace, rest, _, pending | left⟩ := serves
  · exact Store.lt_size_of_state? pending
  · exact Store.lt_size_of_state? left

/-- A world with caches mirrors a plain one and keeps a run of a key in a cell that stands under no
other key. -/
structure Offers (family : Family) (used : Nat → Prop) (plain cached : World) (key : CacheKey)
    (cell : Nat) : Prop where
  mirrors : family.Mirrors used plain cached
  serves : family.Serves plain.store cached.store key cell
  only_key : ∀ number, used number → ∀ other, (cached.cacheAt number).cell? other = some cell →
    other = key

/-- A request that finds an entry waits for its cell. -/
theorem Mirrors.request_found {plain cached : World} (mirrors : family.Mirrors used plain cached)
    {key : CacheKey} {number cell : Nat} (is_used : used number)
    (found : (cached.cacheAt number).cell? key = some cell) :
    family.Offers used plain ⟨cached.store, cached.caches.set number (cached.cacheAt number)⟩ key
      cell := by
  have same_caches := World.cacheAt_set_self cached number
  refine ⟨⟨mirrors.twins, ?_, ?_⟩, mirrors.serves number is_used key cell found, ?_⟩
  · intro other other_used second other_cell entry
    rw [same_caches] at entry
    exact mirrors.serves other other_used second other_cell entry
  · intro first first_used second other_cell entry other other_used other_key other_entry
    rw [same_caches] at entry other_entry
    exact mirrors.one_key first first_used second other_cell entry other other_used other_key
      other_entry
  · intro other other_used second entry
    rw [same_caches] at entry
    exact mirrors.one_key number is_used key cell found other other_used second entry

/-- A request that finds no entry makes a new cell, which has the whole run before it. -/
theorem Mirrors.request_absent {plain cached : World} (mirrors : family.Mirrors used plain cached)
    {request : Request} (asks : family.Asks request) (number : Nat) (needed : List Nat) :
    family.Offers used plain
      ⟨(cached.store.defer ((family.work request).mapOk Payload.answer) needed).2,
        cached.caches.set number
          ⟨(Resolver.keyOf request, cached.store.size) :: (cached.cacheAt number).entries⟩⟩
      (Resolver.keyOf request) cached.store.size := by
  obtain ⟨extra, twins⟩ := mirrors.twins
  have old_cell : ∀ other, used other → ∀ key cell,
      (cached.cacheAt other).cell? key = some cell → cell < cached.store.size :=
    fun other other_used key cell entry =>
      lt_size_of_serves (mirrors.serves other other_used key cell entry)
  have served : family.Serves plain.store
      (cached.store.defer ((family.work request).mapOk Payload.answer) needed).2
      (Resolver.keyOf request) cached.store.size := by
    refine ⟨twins.bound_le_size, request, asks, rfl, [], _, .stay _, Or.inl ?_⟩
    exact (cached.store.state?_allocate _ needed _).trans (if_pos rfl)
  refine ⟨⟨⟨_, twins.allocate _ needed⟩, ?_, ?_⟩, served, ?_⟩
  · intro other other_used key cell entry
    rcases World.entry_cases entry with ⟨rfl, rfl⟩ | old_entry
    · exact served
    · obtain ⟨after, origin, origin_asks, same_key, shares⟩ :=
        mirrors.serves other other_used key cell old_entry
      refine ⟨after, origin, origin_asks, same_key,
        shares.mono (.refl _) (.refl twins.ordered _) ?_⟩
      exact (cached.store.state?_allocate _ needed _).trans
        (if_neg (Nat.ne_of_lt (old_cell other other_used key cell old_entry)))
  · intro first first_used key cell entry second second_used other_key other_entry
    rcases World.entry_cases entry with ⟨rfl, rfl⟩ | old_entry
    · rcases World.entry_cases other_entry with ⟨rfl, _⟩ | other_old
      · rfl
      · exact absurd (old_cell second second_used other_key _ other_old) (Nat.lt_irrefl _)
    · rcases World.entry_cases other_entry with ⟨rfl, rfl⟩ | other_old
      · exact absurd (old_cell first first_used key _ old_entry) (Nat.lt_irrefl _)
      · exact mirrors.one_key first first_used key cell old_entry second second_used other_key
          other_old
  · intro other other_used key entry
    rcases World.entry_cases entry with ⟨rfl, _⟩ | old_entry
    · rfl
    · exact absurd (old_cell other other_used key _ old_entry) (Nat.lt_irrefl _)

/-- The cell that a request waits for keeps a run of its key, and it stands under no other key. -/
theorem Mirrors.request {plain cached : World} (mirrors : family.Mirrors used plain cached)
    {request : Request} (asks : family.Asks request) {number : Nat} (is_used : used number)
    {needed : List Nat} {cell : Nat} {cache : Cache} {store : Store Event Payload}
    (made : (cached.cacheAt number).request cached.store (Resolver.keyOf request)
      ((family.work request).mapOk Payload.answer) needed = (cell, cache, store)) :
    family.Offers used plain ⟨store, cached.caches.set number cache⟩ (Resolver.keyOf request)
      cell := by
  cases found : (cached.cacheAt number).cell? (Resolver.keyOf request) with
  | some entry =>
      rw [Cache.request_of_found found] at made
      obtain ⟨rfl, rfl, rfl⟩ := made
      exact mirrors.request_found is_used found
  | none =>
      rw [Cache.request_of_absent found] at made
      obtain ⟨rfl, rfl, rfl⟩ := made
      exact mirrors.request_absent asks number needed

/-- The result with caches is the plain one. Where a request breaks off in the plain world, there is
an error with caches; without such requests nothing differs. -/
def Agreed {α : Type} (family : Family) (kept plainly : Ending α) : Prop :=
  kept = plainly.guarded ∧ (family.Unbroken → kept = plainly)

/-- Something done in the plain world and in the one with caches ends alike, and the worlds go on
mirroring each other. -/
def Lockstep {α : Type} (family : Family) (used : Nat → Prop) (plainly kept : Ending α × World) :
    Prop :=
  family.Agreed kept.1 plainly.1 ∧ family.Mirrors used plainly.2 kept.2

/-- A request gets from its cache what its chain answers, and the worlds go on mirroring each other.
-/
theorem Mirrors.dispatch {plain cached : World} (mirrors : family.Mirrors used plain cached)
    {request : Request} (asks : family.Asks request) {resolver : Resolver}
    (same_stages : resolver.stages = family.kinds.map StageKind.stage) {number : Nat}
    (has_cache : resolver.cache = some number) (is_used : used number) :
    let plainly := resolver.uncached.dispatch request plain
    let kept := resolver.dispatch request cached
    family.Lockstep used plainly kept := by
  intro plainly kept
  have plainly_eq : plainly = ((plain.store.run (family.work request)).1.progress,
      { plain with store := (plain.store.run (family.work request)).2 }) := by
    simp only [plainly, Resolver.uncached, Resolver.dispatch, Resolver.runDirectly, same_stages]
    rfl
  obtain ⟨⟨cell, cache, store⟩, made⟩ : ∃ made, (cached.cacheAt number).request cached.store
      (Resolver.keyOf request) ((family.work request).mapOk Payload.answer)
      (Resolver.neededBy request) = made := ⟨_, rfl⟩
  obtain ⟨ready_mirrors, ⟨after, origin, origin_asks, same_key, shares⟩, no_other_key⟩ :=
    mirrors.request asks is_used made
  rw [Family.work, ← same_stages] at made
  have kept_eq := Resolver.dispatch_cached has_cache made
  obtain ⟨extra, twins⟩ := ready_mirrors.twins
  have alike : (family.work request).Alike (family.work origin) :=
    chain_alike family.kinds (matches_of_key asks origin_asks same_key.symm)
  obtain ⟨ends, still_twins, still_shares, others⟩ :=
    twins.share Payload.toAnswer_answer family.limit_le alike (work_reading asks)
      (work_reading origin_asks) after shares
  simp only [plainly_eq, kept, kept_eq]
  refine ⟨⟨ends, fun unbroken => ends.trans ?_⟩, still_twins, ?_, ready_mirrors.one_key⟩
  · exact Computation.guarded_of_unbroken (Store.rest_within
      (fun store cell => Store.precedes_pollBelow _ cell store) (work_unbroken asks unbroken) _)
  · intro other other_used key other_cell entry
    by_cases same_cell : other_cell = cell
    · -- This is the entry that the request has used.
      subst same_cell
      obtain rfl := no_other_key other other_used key entry
      exact ⟨after, origin, origin_asks, same_key, still_shares⟩
    · obtain ⟨other_after, second, second_asks, second_key, second_shares⟩ :=
        ready_mirrors.serves other other_used key other_cell entry
      exact ⟨other_after, second, second_asks, second_key,
        second_shares.mono (Store.precedes_run plain.store _)
          (Store.reader_course twins.ordered (work_reading asks) _).1
          (others other_cell other_after same_cell)⟩

end Family

/-! ## Calls -/

namespace Family

variable {family : Family} {used : Nat → Prop}

/-- A resolver of the family that answers from one of the used caches. -/
structure Includes (family : Family) (used : Nat → Prop) (resolver : Resolver) : Prop where
  stages : resolver.stages = family.kinds.map StageKind.stage
  stdlib : resolver.stdlib = family.stdlib
  declarations : resolver.declarations = family.declarations
  cached : ∃ number, resolver.cache = some number ∧ used number

/-- A request for something that the family is asked about. -/
theorem Mirrors.ask {plain cached : World} (mirrors : family.Mirrors used plain cached)
    {resolver : Resolver} (included : family.Includes used resolver) {file : FileContext}
    {node : Option SyntaxNode} (member : ⟨resolver.binding, file, node⟩ ∈ family.inquiries)
    (text : String) (language : Language) :
    let request := resolver.request file text language node
    family.Lockstep used (resolver.uncached.dispatch request plain)
      (resolver.dispatch request cached) := by
  obtain ⟨number, has_cache, is_used⟩ := included.cached
  refine mirrors.dispatch ⟨_, member, text, language, ?_⟩ included.stages has_cache is_used
  rw [Resolver.request, included.stdlib, included.declarations]
  rfl

/-- Two requests go on in lockstep after an agreed success. -/
theorem Lockstep.andThen {α β : Type} {plainly kept : Ending α × World}
    (first : family.Lockstep used plainly kept) {plain_next next : α → World → Ending β × World}
    (continued : ∀ value plain cached, family.Mirrors used plain cached →
      family.Lockstep used (plain_next value plain) (next value cached)) :
    family.Lockstep used (World.andThen plainly plain_next) (World.andThen kept next) := by
  obtain ⟨plain_ending, plain⟩ := plainly
  obtain ⟨ending, cached⟩ := kept
  obtain ⟨⟨ending_eq, exact_eq⟩, mirrors⟩ := first
  simp only at ending_eq exact_eq mirrors
  subst ending_eq
  cases plain_ending with
  | waiting => exact ⟨⟨rfl, fun _ => rfl⟩, mirrors⟩
  | brokenOff => exact ⟨⟨rfl, fun unbroken => nomatch exact_eq unbroken⟩, mirrors⟩
  | finished outcome =>
      cases outcome with
      | error error => exact ⟨⟨rfl, fun _ => rfl⟩, mirrors⟩
      | ok value => exact continued value plain cached mirrors

theorem Mirrors.finished {α : Type} {plain cached : World}
    (mirrors : family.Mirrors used plain cached) (outcome : Outcome α) :
    family.Lockstep used (.finished outcome, plain) (.finished outcome, cached) :=
  ⟨⟨rfl, fun _ => rfl⟩, mirrors⟩

theorem Mirrors.resolveEach {plain cached : World} (mirrors : family.Mirrors used plain cached)
    {resolver : Resolver} (included : family.Includes used resolver) {file : FileContext}
    (member : ⟨resolver.binding, file, none⟩ ∈ family.inquiries)
    (references : List ReferenceName) :
    family.Lockstep used (resolver.uncached.resolveEach file references plain)
      (resolver.resolveEach file references cached) := by
  induction references generalizing plain cached with
  | nil => exact mirrors.finished _
  | cons reference references ih =>
      refine (mirrors.ask included member reference.text reference.language).andThen ?_
      intro answer plain cached next_mirrors
      refine (ih next_mirrors).andThen ?_
      intro answers plain cached last_mirrors
      exact last_mirrors.finished _

theorem Mirrors.resolveAll {plain cached : World} (mirrors : family.Mirrors used plain cached)
    {resolver : Resolver} (included : family.Includes used resolver) {file : FileContext}
    (member : ⟨resolver.binding, file, none⟩ ∈ family.inquiries)
    (references : List ReferenceName) :
    family.Lockstep used (resolver.uncached.resolveAll file references plain)
      (resolver.resolveAll file references cached) := by
  refine (mirrors.resolveEach included member references).andThen ?_
  intro answers plain cached last_mirrors
  exact last_mirrors.finished _

/-- Removing entries leaves less to mirror. -/
theorem Mirrors.shrink {plain cached fewer : World} (mirrors : family.Mirrors used plain cached)
    (same_store : fewer.store = cached.store)
    (kept : ∀ number key cell, (fewer.cacheAt number).cell? key = some cell →
      (cached.cacheAt number).cell? key = some cell) :
    family.Mirrors used plain fewer where
  twins := same_store.symm ▸ mirrors.twins
  serves number is_used key cell entry :=
    same_store.symm ▸ mirrors.serves number is_used key cell (kept number key cell entry)
  one_key number is_used key cell entry other other_used second other_entry :=
    mirrors.one_key number is_used key cell (kept number key cell entry) other other_used second
      (kept other second cell other_entry)

theorem Mirrors.invalidate {plain cached : World} (mirrors : family.Mirrors used plain cached)
    (resolver : Resolver) (file : FileId) :
    family.Mirrors used plain (resolver.invalidate file cached) :=
  mirrors.shrink (resolver.store_invalidate file cached) fun _ _ _ => World.entry_of_invalidate

theorem Mirrors.clear {plain cached : World} (mirrors : family.Mirrors used plain cached)
    (resolver : Resolver) : family.Mirrors used plain (resolver.clear cached) :=
  mirrors.shrink (resolver.store_clear cached) fun _ _ _ => World.entry_of_clear

theorem Mirrors.resolveTogether {plain cached : World} (mirrors : family.Mirrors used plain cached)
    {resolver : Resolver} (included : family.Includes used resolver)
    (texts : List (FileContext × String × Language))
    (members : ∀ entry ∈ texts, ⟨resolver.binding, entry.1, none⟩ ∈ family.inquiries) :
    let plainly := resolver.uncached.resolveTogether texts plain
    let kept := resolver.resolveTogether texts cached
    kept.1 = plainly.1.map Computation.Progress.guarded ∧ (family.Unbroken → kept.1 = plainly.1) ∧
      family.Mirrors used plainly.2 kept.2 := by
  induction texts generalizing plain cached with
  | nil => exact ⟨rfl, fun _ => rfl, mirrors⟩
  | cons entry texts ih =>
      obtain ⟨file, text, language⟩ := entry
      rw [List.forall_mem_cons] at members
      obtain ⟨⟨first_eq, first_exact⟩, next_mirrors⟩ := mirrors.ask included members.1 text language
      obtain ⟨rest_eq, rest_exact, last_mirrors⟩ := ih next_mirrors members.2
      exact ⟨List.cons_eq_cons.mpr ⟨first_eq, rest_eq⟩,
        fun unbroken => List.cons_eq_cons.mpr ⟨first_exact unbroken, rest_exact unbroken⟩,
        last_mirrors⟩

/-- A call tells the same in both worlds. -/
theorem Mirrors.call {plain cached : World} (mirrors : family.Mirrors used plain cached)
    {resolver : Resolver} (included : family.Includes used resolver) {call : Call}
    (leaves_chain : call.leavesChain = true)
    (members : ∀ inquiry ∈ call.inquiries resolver.binding, inquiry ∈ family.inquiries) :
    let plainly := resolver.uncached.call plain call
    let kept := resolver.call cached call
    kept.1.result? = plainly.1.result?.map CallReply.guarded ∧
      (family.Unbroken → kept.1.result? = plainly.1.result?) ∧
      family.Mirrors used plainly.2 kept.2 := by
  cases call with
  | resolve file text language =>
      obtain ⟨⟨same, exact_same⟩, next_mirrors⟩ :=
        mirrors.ask included (members _ (List.mem_singleton_self _)) text language
      exact ⟨congrArg (some ∘ CallReply.answer) same,
        fun unbroken => congrArg (some ∘ CallReply.answer) (exact_same unbroken), next_mirrors⟩
  | resolveNode file node language =>
      obtain ⟨⟨same, exact_same⟩, next_mirrors⟩ :=
        mirrors.ask included (members _ (List.mem_singleton_self _)) node.text language
      exact ⟨congrArg (some ∘ CallReply.answer) same,
        fun unbroken => congrArg (some ∘ CallReply.answer) (exact_same unbroken), next_mirrors⟩
  | resolveAll file references =>
      obtain ⟨⟨same, exact_same⟩, next_mirrors⟩ :=
        mirrors.resolveAll included (members _ (List.mem_singleton_self _)) references
      exact ⟨congrArg (some ∘ CallReply.summary) same,
        fun unbroken => congrArg (some ∘ CallReply.summary) (exact_same unbroken), next_mirrors⟩
  | resolveTogether texts =>
      obtain ⟨same, exact_same, next_mirrors⟩ := mirrors.resolveTogether included texts
        fun entry member => members _ (List.mem_map_of_mem member)
      exact ⟨congrArg (some ∘ CallReply.answers) same,
        fun unbroken => congrArg (some ∘ CallReply.answers) (exact_same unbroken), next_mirrors⟩
  | runChain stages request => simp [Call.leavesChain] at leaves_chain
  | peek key =>
      simp only [Resolver.call]
      split <;> exact ⟨rfl, fun _ => rfl, mirrors⟩
  | invalidate file =>
      simp only [Resolver.call]
      split
      · exact ⟨rfl, fun _ => rfl, mirrors.invalidate resolver file⟩
      · exact ⟨rfl, fun _ => rfl, mirrors⟩
  | clear =>
      simp only [Resolver.call]
      split
      · exact ⟨rfl, fun _ => rfl, mirrors.clear resolver⟩
      · exact ⟨rfl, fun _ => rfl, mirrors⟩

/-- Calls tell the same in both worlds, one after the other. -/
theorem Mirrors.callAll {plain cached : World} (mirrors : family.Mirrors used plain cached)
    (calls : List (Resolver × Call)) (included : ∀ entry ∈ calls, family.Includes used entry.1)
    (leave_chain : ∀ entry ∈ calls, entry.2.leavesChain = true)
    (members : ∀ inquiry ∈ inquiriesOf calls, inquiry ∈ family.inquiries) :
    let plainly := (Resolver.callAll plain (calls.map fun entry => (entry.1.uncached, entry.2))).1
    let kept := (Resolver.callAll cached calls).1
    kept.map CallReply.result? =
        plainly.map (fun reply => reply.result?.map CallReply.guarded) ∧
      (family.Unbroken → kept.map CallReply.result? = plainly.map CallReply.result?) := by
  induction calls generalizing plain cached with
  | nil => exact ⟨rfl, fun _ => rfl⟩
  | cons entry calls ih =>
      obtain ⟨resolver, call⟩ := entry
      rw [List.forall_mem_cons] at included leave_chain
      rw [inquiriesOf, List.flatMap_cons, List.forall_mem_append] at members
      obtain ⟨same, exact_same, next_mirrors⟩ :=
        mirrors.call included.1 leave_chain.1 members.1
      obtain ⟨rest_same, rest_exact⟩ := ih next_mirrors included.2 leave_chain.2 members.2
      exact ⟨List.cons_eq_cons.mpr ⟨same, rest_same⟩,
        fun unbroken => List.cons_eq_cons.mpr ⟨exact_same unbroken, rest_exact unbroken⟩⟩

/-- A world whose used caches are empty mirrors itself. -/
theorem mirrors_self {world : World} (ordered : world.store.Ordered)
    (bound_eq : world.store.size = family.bound)
    (unused : ∀ number, used number → world.cacheAt number = .empty) :
    family.Mirrors used world world where
  twins := ⟨[], bound_eq ▸ Store.Twins.refl ordered⟩
  serves number is_used key cell entry := by simp [unused number is_used] at entry
  one_key number is_used key cell entry := by simp [unused number is_used] at entry

end Family

/-- Caching is transparent. Whatever calls are made on resolvers with the same built-in stages,
standard library and declarations, with caches that are shared in any way, every result is the one
of the resolver without its cache. Only where the semantic bindings break off without a cache, there
is an error with one. -/
theorem caching_transparent (kinds : List StageKind) (stdlib : StdlibLookup)
    (declarations : Option (Collection DeclaredName)) (world : World)
    (calls : List (Resolver × Call)) (ordered : world.store.Ordered)
    (placed : ∀ collection, declarations = some collection → Placed world.store collection)
    (same_lookups : ∀ entry ∈ calls, entry.1.stages = kinds.map StageKind.stage ∧
      entry.1.stdlib = stdlib ∧ entry.1.declarations = declarations)
    (new_caches : ∀ entry ∈ calls, ∃ number, entry.1.cache = some number ∧
      world.cacheAt number = .empty)
    (leave_chain : ∀ entry ∈ calls, entry.2.leavesChain = true)
    (consistent : Consistent (inquiriesOf calls)) :
    let plainly := (Resolver.callAll world (calls.map fun entry => (entry.1.uncached, entry.2))).1
    let kept := (Resolver.callAll world calls).1
    kept.map CallReply.result? =
        plainly.map (fun reply => reply.result?.map CallReply.guarded) ∧
      ((∀ inquiry ∈ inquiriesOf calls, inquiry.consultation? ≠ some .breakOff) →
        kept.map CallReply.result? = plainly.map CallReply.result?) := by
  let family : Family :=
    { kinds := kinds
      stdlib := stdlib
      declarations := declarations
      inquiries := inquiriesOf calls
      bound := world.store.size
      consistent := consistent
      sources_before := fun collection found => (placed collection found).sources_before
      merged_lt := fun collection found => (placed collection found).merged_lt }
  let used (number : Nat) : Prop := world.cacheAt number = .empty
  have mirrors : family.Mirrors used world world :=
    Family.mirrors_self ordered rfl fun _ is_empty => is_empty
  refine mirrors.callAll calls (fun entry member => ?_) leave_chain fun _ => id
  obtain ⟨same_stages, same_stdlib, same_declarations⟩ := same_lookups entry member
  exact ⟨same_stages, same_stdlib, same_declarations, new_caches entry member⟩

/-- Two references that differ in blanks share an entry, a failing node has one of its own, and
entries are removed in between. -/
theorem caching_transparent_shared :
    let source := (Store.empty : Store Event Payload).defer (.finish (.ok (.declarations []))) []
    let built := Collection.build source.2 [⟨.normal, source.1, none⟩]
    let world : World := ⟨built.2, [.empty]⟩
    let binding : Binding := ⟨fun _ => .failure (.computation "unreadable")⟩
    let resolver : Resolver := ⟨StageKind.defaultChain.map StageKind.stage, .nothing, some binding,
      some built.1, some 0⟩
    let file : FileContext := ⟨⟨"file:a"⟩, "a.kt", .default, .kotlin, none, ["lib.Foo"]⟩
    let calls : List Call := [.resolve file " Foo " .kotlin, .resolve file "Foo" .kotlin,
      .resolveNode file ⟨⟨1⟩, "Foo"⟩ .kotlin, .invalidate file.id,
      .resolveAll file [.ofText "Foo" .kotlin, .ofText "Bar" .kotlin]]
    (Resolver.callAll world (calls.map fun call => (resolver, call))).1.map CallReply.result? =
      (Resolver.callAll world (calls.map fun call => (resolver.uncached, call))).1.map
        CallReply.result? := by
  intro source built world binding resolver file calls
  have inside : ∀ registered ∈ [(⟨.normal, source.1, none⟩ : Source DeclaredName)],
      registered.cell < source.2.size := by
    simp [source, Store.defer, Store.allocate, Store.empty, Store.size]
  have source_ordered : source.2.Ordered := Store.Ordered.defer Store.ordered_empty (by trivial) []
  obtain ⟨ordered, placed⟩ := placed_build source_ordered inside
  have inquired : ∀ inquiry ∈ inquiriesOf (calls.map fun call => (resolver, call)),
      inquiry.file = file ∧ inquiry.binding = some binding := by
    simp [inquiriesOf, calls, Call.inquiries, resolver]
  have consistent : Consistent (inquiriesOf (calls.map fun call => (resolver, call))) := by
    constructor
    · intro first member second second_member _
      rw [(inquired first member).1, (inquired second second_member).1]
    · intro first member second second_member _ same_node
      rw [Inquiry.consultation?, Inquiry.consultation?, (inquired first member).2,
        (inquired second second_member).2]
      cases first_node : first.node <;> cases second_node : second.node <;> simp_all [binding]
  have transparent := caching_transparent StageKind.defaultChain .nothing (some built.1) world
    (calls.map fun call => (resolver, call)) ordered
    (fun _ found => Option.some.inj found ▸ placed) (by simp [resolver])
    (by simp [resolver, world, World.cacheAt]) (by simp [calls, Call.leavesChain]) consistent
  rw [List.map_map] at transparent
  refine transparent.2 fun inquiry member => ?_
  rw [Inquiry.consultation?, (inquired inquiry member).2]
  cases inquiry.node <;> simp [binding]

end Resolution

end SymbolResolver
