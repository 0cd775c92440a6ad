import SymbolResolver.Lazy.Recipe
import SymbolResolver.Proofs.Collections
import SymbolResolver.Proofs.Ledgers

/-!
# Shared sources

Collections that are built from each other share the cells of their sources. Which cells a history
of moves has made, and what each is for, is read off the moves (`Shelf.roles`). All notes of the
history are those of one run for each of these cells, whatever is read, waited for, dropped and read
again (`Shelf.books_performAll`), and moves that build something only add cells that have not run.
-/

namespace SymbolResolver

namespace Lazy

variable {ε ν α : Type}

/-! ## Readings -/

namespace Shelf

/-- What is left of the readings under way leaves no notes. -/
def Quiet (shelf : Shelf ε ν α) : Prop :=
  ∀ collection rest, Reading.waiting collection rest ∈ shelf.readings → rest.Within noteless

theorem follow_quiet (shelf : Shelf ε ν α) (collection : Collection α)
    {work : Computation ε ν (Outcome (Finding α))} (silent : work.Within noteless) :
    (∃ traces, Store.Ledger traces [] shelf.store (shelf.follow collection work).2) ∧
      ∀ other rest, (shelf.follow collection work).1 = .waiting other rest →
        rest.Within noteless := by
  refine ⟨Store.Ledger.run shelf.store silent, ?_⟩
  have left_silent : (shelf.store.run work).1.Within noteless :=
    Store.rest_within (fun store cell => Store.precedes_pollBelow _ cell store) silent shelf.store
  intro other rest waits
  simp only [follow] at waits
  generalize (shelf.store.run work).1 = left at left_silent waits
  cases left with
  | finish outcome => cases waits
  | breakOff => cases waits
  | note | pass | start | await | peek =>
      cases waits
      exact left_silent

theorem resume_quiet {shelf : Shelf ε ν α} (quiet : shelf.Quiet) (number : Nat) :
    (∃ traces, Store.Ledger traces [] shelf.store (shelf.resume number).store) ∧
      (shelf.resume number).Quiet := by
  simp only [resume]
  split
  · next collection rest found =>
    have silent := quiet collection rest (List.mem_of_getElem? found)
    obtain ⟨ledger, reading_quiet⟩ := shelf.follow_quiet collection silent
    refine ⟨ledger, fun other later member => ?_⟩
    rcases List.mem_or_eq_of_mem_set member with kept | same
    · exact quiet other later kept
    · exact reading_quiet other later same.symm
  · exact ⟨⟨_, .refl shelf.store⟩, quiet⟩

theorem turn_quiet (scheduling : Scheduling) {shelf : Shelf ε ν α} (quiet : shelf.Quiet)
    (turn : Turn) :
    (∃ traces, Store.Ledger traces [] shelf.store (shelf.turn scheduling turn).store) ∧
      (shelf.turn scheduling turn).Quiet := by
  cases turn with
  | openGate gate => exact ⟨⟨_, .openGate shelf.store gate⟩, quiet⟩
  | resume number => exact resume_quiet quiet number
  | drop number =>
      refine ⟨⟨_, .refl shelf.store⟩, fun collection rest member => ?_⟩
      obtain ⟨position, found⟩ := List.mem_iff_getElem?.mp member
      simp only [Shelf.turn, List.getElem?_modify] at found
      obtain ⟨reading, at_position, dropped⟩ := Option.map_eq_some_iff.mp found
      split at dropped
      · cases reading <;> cases dropped
      · exact quiet collection rest (dropped ▸ List.mem_of_getElem? at_position)
  | task cell => exact ⟨Store.Ledger.runTask scheduling shelf.toExecutor cell, quiet⟩
  | settle => exact ⟨Store.Ledger.settle scheduling _ shelf.toExecutor, quiet⟩

end Shelf

/-! ## Roles of cells -/

/-- What a cell of a shelf is for. -/
inductive Role (ε ν α : Type)
  /-- A source that is computed. -/
  | source (work : Computation ε ν (Outcome (List α)))
  /-- A list that is known. -/
  | values (items : List α)
  /-- The part of a view that comes from one source. -/
  | view (keep : α → Leaf ε (Option α)) (viewed : Source α)
  /-- The merged list of a collection. -/
  | merge (sources : List (Source α))

/-- The state in which a cell is made. -/
def Role.state [Listed ν α] [BEq α] : Role ε ν α → CellState ε ν
  | source work => .pending (work.mapOk Listed.wrap)
  | values items => .settled (.ok (Listed.wrap items))
  | view keep viewed => .pending (Collection.viewWork keep viewed)
  | merge sources => .pending (Collection.mergeWork sources)

/-- Whether a move makes, names or gives up collections, and reads nothing. -/
def ShelfMove.builds : ShelfMove ε ν α → Bool
  | read _ _ | turn _ => false
  | feed _ _ _ | build _ _ | filterMap _ _ _ | chain _ _ _ | clone _ _ | drop _ => true

namespace Shelf

variable [Listed ν α] [BEq α]

/-- The cells that the registration of a source makes. A named list has its cell already. -/
def registered (shelf : Shelf ε ν α) : SourceSpec ε ν α → List (Role ε ν α)
  | .values items => [.values items]
  | .computed work _ _ => [.source work]
  | .feed name _ => if (shelf.feeds.lookup name).isSome then [] else [.values []]

/-- The cells that a move makes. -/
def made (shelf : Shelf ε ν α) : ShelfMove ε ν α → List (Role ε ν α)
  | .feed _ work _ => [.source work]
  | .build _ specs =>
    specs.flatMap (fun (_, spec) => shelf.registered spec) ++
      [.merge (Collection.arrange (shelf.registerAll shelf.store specs).1)]
  | .filterMap _ origin keep =>
    match shelf.collection? origin with
    | some collection =>
      collection.sources.map (.view keep) ++
        [.merge (Collection.arrange
          (Collection.viewSources keep shelf.store collection.sources).1)]
    | none => []
  | .chain _ left right =>
    match shelf.collection? left, shelf.collection? right with
    | some first, some second => [.merge (Collection.arrange (first.sources ++ second.sources))]
    | _, _ => []
  | _ => []

/-- The cells that moves make one after the other. -/
def roles (scheduling : Scheduling) : Shelf ε ν α → List (ShelfMove ε ν α) → List (Role ε ν α)
  | _, [] => []
  | shelf, move :: moves =>
    shelf.made move ++ roles scheduling (shelf.perform scheduling move) moves

/-! ## Moves -/

theorem register_appends (shelf : Shelf ε ν α) (store : Store ε ν) (priority : Priority)
    (spec : SourceSpec ε ν α) :
    store.Appends ((shelf.registered spec).map Role.state)
      (shelf.register store priority spec).2 := by
  cases spec with
  | values items => exact .allocate store _ _
  | computed work needed hint => exact .allocate store _ _
  | feed name hint =>
      cases found : shelf.feeds.lookup name with
      | some cell => simpa [registered, register, found] using Store.Appends.refl store
      | none =>
          simp only [registered, register, found, Option.isSome_none, Bool.false_eq_true, if_false]
          exact .allocate store _ _

theorem registerAll_appends (shelf : Shelf ε ν α) (store : Store ε ν)
    (specs : List (Priority × SourceSpec ε ν α)) :
    store.Appends ((specs.flatMap fun (_, spec) => shelf.registered spec).map Role.state)
      (shelf.registerAll store specs).2 := by
  induction specs generalizing store with
  | nil => exact .refl store
  | cons first specs ih =>
      obtain ⟨priority, spec⟩ := first
      rw [List.flatMap_cons, List.map_append]
      exact (shelf.register_appends store priority spec).trans (ih _)

theorem viewSources_appends (keep : α → Leaf ε (Option α)) (store : Store ε ν)
    (sources : List (Source α)) :
    store.Appends ((sources.map fun source => Role.view keep source).map Role.state)
      (Collection.viewSources (β := α) keep store sources).2 := by
  induction sources generalizing store with
  | nil => exact .refl store
  | cons source sources ih =>
      have first := Store.Appends.allocate store
        (.pending (Collection.viewWork (β := α) keep source)) [source.cell]
      exact first.trans (ih _)

theorem build_appends (store : Store ε ν) (sources : List (Source α)) :
    store.Appends [Role.state (.merge (Collection.arrange sources) : Role ε ν α)]
      (Collection.build store sources).2 :=
  .allocate store _ _

/-- A move that builds something adds the cells it makes, and nothing else happens. -/
theorem perform_appends (scheduling : Scheduling) (shelf : Shelf ε ν α) {move : ShelfMove ε ν α}
    (builds : move.builds = true) :
    shelf.store.Appends ((shelf.made move).map Role.state)
        (shelf.perform scheduling move).store ∧
      (shelf.perform scheduling move).readings = shelf.readings := by
  rw [store_perform, readings_perform]
  cases move with
  | feed name work needed => exact ⟨.allocate shelf.store _ _, rfl⟩
  | build handle specs =>
      refine ⟨?_, rfl⟩
      rw [made, List.map_append]
      exact (shelf.registerAll_appends shelf.store specs).trans (build_appends _ _)
  | filterMap handle origin keep =>
      cases found : shelf.collection? origin with
      | none =>
          simp only [made, act, found]
          exact ⟨.refl shelf.store, trivial⟩
      | some collection =>
          simp only [made, act, found, List.map_append]
          exact ⟨(viewSources_appends keep shelf.store collection.sources).trans
            (build_appends _ _), rfl⟩
  | chain handle left right =>
      cases first_found : shelf.collection? left with
      | none =>
          simp only [made, act, first_found]
          exact ⟨.refl shelf.store, trivial⟩
      | some first =>
          cases second_found : shelf.collection? right with
          | none =>
              simp only [made, act, first_found, second_found]
              exact ⟨.refl shelf.store, trivial⟩
          | some second =>
              simp only [made, act, first_found, second_found]
              exact ⟨build_appends _ _, rfl⟩
  | clone handle origin =>
      simp only [made, act]
      split
      · exact ⟨.refl shelf.store, rfl⟩
      · exact ⟨.refl shelf.store, rfl⟩
  | drop handle => exact ⟨.refl shelf.store, rfl⟩
  | read handle query => cases builds
  | turn turn => cases builds

/-- A move that reads takes cells further. The notes on the way are all theirs. -/
theorem perform_ledger (scheduling : Scheduling) {shelf : Shelf ε ν α} (quiet : shelf.Quiet)
    {move : ShelfMove ε ν α} (reads : move.builds = false) :
    shelf.made move = [] ∧
      (∃ traces, Store.Ledger traces [] shelf.store (shelf.perform scheduling move).store) ∧
      (shelf.perform scheduling move).Quiet := by
  cases move with
  | feed | build | filterMap | chain | clone | drop => cases reads
  | turn turn => exact ⟨rfl, turn_quiet scheduling quiet turn⟩
  | read handle query =>
      refine ⟨rfl, ?_⟩
      rw [store_perform]
      simp only [Shelf.Quiet, readings_perform, act]
      split
      · next collection found =>
        have silent : (query.work collection : Computation ε ν (Outcome (Finding α))).Within
            noteless := Collection.query_within trivial trivial (fun _ _ => trivial) query
        obtain ⟨ledger, reading_quiet⟩ := shelf.follow_quiet collection silent
        refine ⟨ledger, fun other later member => ?_⟩
        rcases List.mem_append.mp member with kept | new
        · exact quiet other later kept
        · exact reading_quiet other later (List.mem_singleton.mp new).symm
      · exact ⟨⟨_, .refl shelf.store⟩, quiet⟩

/-! ## Histories -/

theorem books_perform (scheduling : Scheduling) {shelf : Shelf ε ν α} (quiet : shelf.Quiet)
    {origins : List (CellState ε ν)} (booked : ∃ traces, shelf.store.Booked origins traces)
    (move : ShelfMove ε ν α) :
    (shelf.perform scheduling move).Quiet ∧
      ∃ traces, (shelf.perform scheduling move).store.Booked
        (origins ++ (shelf.made move).map Role.state) traces := by
  obtain ⟨traces, booked⟩ := booked
  cases builds : move.builds with
  | true =>
      obtain ⟨appends, same_readings⟩ := shelf.perform_appends scheduling builds
      refine ⟨?_, _, booked.append appends⟩
      rw [Quiet, same_readings]
      exact quiet
  | false =>
      obtain ⟨nothing_made, ⟨more, ledger⟩, still_quiet⟩ := perform_ledger scheduling quiet builds
      refine ⟨still_quiet, fun cell => traces cell ++ more cell, ?_⟩
      rw [nothing_made, List.map_nil, List.append_nil]
      exact booked.step ledger

theorem books_performAll (scheduling : Scheduling) (moves : List (ShelfMove ε ν α)) :
    ∃ traces, ((empty : Shelf ε ν α).performAll scheduling moves).store.Booked
      ((empty.roles scheduling moves).map Role.state) traces := by
  have run : ∀ (moves : List (ShelfMove ε ν α)) (shelf : Shelf ε ν α)
      (origins : List (CellState ε ν)), shelf.Quiet →
      (∃ traces, shelf.store.Booked origins traces) →
      ∃ traces, (shelf.performAll scheduling moves).store.Booked
        (origins ++ (shelf.roles scheduling moves).map Role.state) traces := by
    intro moves
    induction moves with
    | nil =>
        intro shelf origins _ booked
        rw [roles, List.map_nil, List.append_nil]
        exact booked
    | cons move moves ih =>
        intro shelf origins quiet booked
        obtain ⟨still_quiet, still_booked⟩ := books_perform scheduling quiet booked move
        rw [roles, List.map_append, ← List.append_assoc]
        exact ih _ _ still_quiet still_booked
  refine run moves empty [] ?_ ⟨fun _ => [], .empty⟩
  intro collection rest member
  simp [empty] at member

end Shelf

/-! ## Traces -/

theorem Leaf.notes_of_runs {β γ : Type} {store : Store ε ν} {firm : Nat → Prop} {leaf : Leaf ε β}
    {f : β → γ} {trace : List ε} {rest : Computation ε ν γ}
    (run : store.Runs firm (leaf.work.bind fun result => .finish (f result)) trace rest) :
    trace <+: leaf.notes := by
  induction leaf generalizing trace with
  | finish result =>
      cases run
      exact List.nil_prefix
  | breakOff =>
      cases run
      exact List.nil_prefix
  | note event next ih =>
      cases run with
      | stay => exact List.nil_prefix
      | note run => exact (List.prefix_cons_inj event).mpr (ih run)
  | pass gate next ih =>
      cases run with
      | stay => exact List.nil_prefix
      | pass _ run => exact ih run

/-- A view has left notes of its function only if the source has succeeded, and they are those of
one pass over the list. -/
theorem Collection.notes_of_view [Listed ν α] {store : Store ε ν} {firm : Nat → Prop}
    {keep : α → Leaf ε (Option α)} {viewed : Source α} {trace : List ε}
    {rest : Computation ε ν (Outcome ν)}
    (run : store.Runs firm (viewWork keep viewed) trace rest) :
    trace = [] ∨ ∃ stored, store.outcome? viewed.cell = some (.ok stored) ∧
      trace <+: (Leaf.filterMap keep (Listed.unwrap stored)).notes := by
  rw [viewWork, pull, Computation.outcomeOf, Computation.mapOk, Computation.andThen,
    Computation.andThen, Computation.bind_assoc, Computation.bind] at run
  cases run with
  | stay => exact Or.inl rfl
  | @await _ _ outcome _ _ known run =>
      cases outcome with
      | error error =>
          cases run
          exact Or.inl rfl
      | ok stored => exact Or.inr ⟨stored, known, Leaf.notes_of_runs run⟩

namespace Store.Booked

variable {origins : List (CellState ε ν)} {traces : Nat → List ε} {store : Store ε ν}

theorem noted (booked : Booked origins traces store) {scope : Scope ε} {cell : Nat}
    {origin : CellState ε ν} (found : origins[cell]? = some origin) (within : origin.Within scope) :
    ∀ event ∈ traces cell, scope.noted event := by
  obtain ⟨state, _, advances⟩ := booked.advances cell origin found
  cases origin with
  | pending work =>
      rcases advances with ⟨nothing, _⟩ | ⟨rest, run, _⟩
      · simp [nothing]
      · exact (run.within within).2
  | running work =>
      obtain ⟨rest, run, _⟩ := advances
      exact (run.within within).2
  | settled outcome => simp [advances.1]

theorem course (booked : Booked origins traces store) {cell : Nat}
    {work : Computation ε ν (Outcome ν)} (found : origins[cell]? = some (.pending work)) :
    ∃ rest, store.Runs (fun _ => False) work (traces cell) rest := by
  obtain ⟨state, _, advances⟩ := booked.advances cell _ found
  rcases advances with ⟨nothing, _⟩ | ⟨rest, run, _⟩
  · exact ⟨work, nothing ▸ .stay work⟩
  · exact ⟨rest, run⟩

/-- If only one cell leaves notes of a kind, they are counted on its trace. -/
theorem countP_single (booked : Booked origins traces store) {mine : ε → Bool} {cell : Nat}
    (inside : cell < store.size)
    (others_silent : ∀ other origin, origins[other]? = some origin → other ≠ cell →
      origin.Within (silence mine)) :
    store.notes.countP mine = (traces cell).countP mine := by
  rw [booked.countP_notes]
  refine Finset.sum_eq_single_of_mem cell (Finset.mem_range.mpr inside) ?_
  intro other member different
  have at_other : other < origins.length := booked.size_eq ▸ Finset.mem_range.mp member
  have found := List.getElem?_eq_getElem at_other
  rw [List.countP_eq_zero]
  intro event noted
  have silent : mine event = false :=
    booked.noted found (others_silent other _ found different) event noted
  simp [silent]

end Store.Booked

namespace Shelf

variable [Listed ν α] [BEq α]

/-- Sources are shared and run once, and views are lazy, whatever is done with collections. -/
theorem sources_shared (scheduling : Scheduling) (moves : List (ShelfMove ε ν α)) :
    let shelf := (empty : Shelf ε ν α).performAll scheduling moves
    let roles := (empty : Shelf ε ν α).roles scheduling moves
    -- All notes are those of one run for each cell that the moves have made.
    (∃ traces : Nat → List ε,
      shelf.store.notes.Perm ((List.range roles.length).flatMap traces) ∧
      (∀ cell work, roles[cell]? = some (.source work) →
        ∃ state, shelf.store.state? cell = some state ∧
          (CellState.pending (work.mapOk Listed.wrap)).Advances shelf.store (traces cell) state) ∧
      -- A view applies its function to the list of a source that has succeeded, and only once.
      (∀ cell keep viewed, roles[cell]? = some (.view keep viewed) → traces cell = [] ∨
        ∃ stored, shelf.store.outcome? viewed.cell = some (.ok stored) ∧
          traces cell <+: (Leaf.filterMap keep (Listed.unwrap stored)).notes) ∧
      (∀ cell sources, roles[cell]? = some (.merge sources) → traces cell = []) ∧
      (∀ cell items, roles[cell]? = some (.values items) → traces cell = [])) ∧
    -- The first note of a source that nobody else leaves is left at most once.
    (∀ (cell : Nat) (mark : ε) (next : Computation ε ν (Outcome (List α))) (mine : ε → Bool),
      roles[cell]? = some (.source (.note mark next)) → mine mark = true →
      next.Within (silence mine) →
      (∀ other role, roles[other]? = some role → other ≠ cell →
        role.state.Within (silence mine)) →
      shelf.store.notes.countP mine ≤ 1) ∧
    -- Building starts nothing: cells stay as they are, and new ones wait to be asked or are known.
    ∀ move : ShelfMove ε ν α, move.builds = true →
      let built := shelf.perform scheduling move
      built.store.notes = shelf.store.notes ∧
      (∀ cell < shelf.store.size, built.store.state? cell = shelf.store.state? cell) ∧
      ∀ cell state, shelf.store.size ≤ cell → built.store.state? cell = some state →
        (∃ work, state = .pending work) ∨
          ∃ items : List α, state = .settled (.ok (Listed.wrap items)) := by
  intro shelf roles
  obtain ⟨traces, booked⟩ := books_performAll scheduling moves
  have origin_of : ∀ {cell : Nat} {role : Role ε ν α}, roles[cell]? = some role →
      (roles.map Role.state)[cell]? = some role.state := by
    intro cell role found
    rw [List.getElem?_map, found, Option.map_some]
  have nothing_noted : ∀ {cell : Nat} {role : Role ε ν α}, roles[cell]? = some role →
      role.state.Within noteless → traces cell = [] := by
    intro cell role found silent
    exact List.eq_nil_iff_forall_not_mem.mpr (booked.noted (origin_of found) silent)
  refine ⟨⟨traces, ?_, ?_, ?_, ?_, ?_⟩, ?_, ?_⟩
  · simpa using booked.notes_perm
  · intro cell work found
    exact booked.advances cell _ (origin_of found)
  · intro cell keep viewed found
    obtain ⟨rest, run⟩ := booked.course (origin_of found)
    exact Collection.notes_of_view run
  · intro cell sources found
    have silent : (Collection.mergeWork sources : Computation ε ν (Outcome ν)).Within noteless :=
      Collection.mergeWork_within (fun _ _ => trivial) (fun _ _ => trivial)
    exact nothing_noted found silent
  · intro cell items found
    exact nothing_noted found trivial
  · intro cell mark next mine found marked next_silent others_silent
    obtain ⟨rest, run⟩ := booked.course (origin_of found)
    have inside : cell < shelf.store.size := by
      rw [booked.size_eq]
      exact (List.getElem?_eq_some_iff.mp (origin_of found)).1
    have silent_elsewhere : ∀ other origin, (roles.map Role.state)[other]? = some origin →
        other ≠ cell → origin.Within (silence mine) := by
      intro other origin at_other different
      rw [List.getElem?_map] at at_other
      obtain ⟨role, role_found, rfl⟩ := Option.map_eq_some_iff.mp at_other
      exact others_silent other role role_found different
    rw [booked.countP_single inside silent_elsewhere]
    exact (run.count_first marked (Computation.within_mapOk next_silent _)).1
  · intro move builds built
    obtain ⟨appends, _⟩ := shelf.perform_appends scheduling builds
    refine ⟨appends.notes_eq, fun cell inside => appends.state?_of_lt inside, ?_⟩
    intro cell state beyond found
    rw [appends.state?_of_le beyond, List.getElem?_map] at found
    obtain ⟨role, _, rfl⟩ := Option.map_eq_some_iff.mp found
    cases role with
    | source | view | merge => exact Or.inl ⟨_, rfl⟩
    | values items => exact Or.inr ⟨items, rfl⟩

/-- A list behind a gate is read through a view and through a union with it. The first reading is
dropped, and a later one takes up what it has begun. -/
theorem sources_shared_gated :
    let work : Computation Mark (List String) (Outcome (List String)) :=
      .note (.began "list") (.pass "gate" (.finish (.ok ["a", "b"])))
    let keep (item : String) : Leaf Mark (Option String) :=
      .note (.ended item) (.finish (some item))
    let moves : List (ShelfMove Mark (List String) String) :=
      [.feed "list" work [], .build "all" [(.normal, .feed "list" none)],
        .filterMap "view" "all" keep, .chain "both" "all" "view", .read "both" .materialize,
        .turn (.drop 0), .turn (.openGate "gate"), .read "view" .size, .read "both" .isEmpty]
    let shelf := (empty : Shelf Mark (List String) String).performAll .onDemand moves
    shelf.store.notes = [.began "list", .ended "a", .ended "b"] ∧
      shelf.store.notes.countP (· == .began "list") ≤ 1 := by
  intro work keep moves shelf
  refine ⟨by decide +kernel, ?_⟩
  obtain ⟨_, at_most_once, _⟩ := sources_shared (α := String) .onDemand moves
  refine at_most_once 0 _ _ (· == .began "list") rfl (by decide) ⟨trivial, trivial⟩ ?_
  have merged_silent : ∀ sources : List (Source String),
      (Collection.mergeWork sources :
        Computation Mark (List String) (Outcome (List String))).Within
          (silence (· == Mark.began "list")) :=
    fun sources => Collection.mergeWork_within (fun _ _ => trivial) (fun _ _ => trivial)
  intro other role found different
  match other, found with
  | 0, _ => exact absurd rfl different
  | 1, found | 3, found | 4, found =>
      cases found
      exact merged_silent _
  | 2, found =>
      cases found
      refine Collection.viewWork_within trivial fun item => ⟨?_, trivial⟩
      rfl
  | _ + 5, found => cases found

end Shelf

end Lazy

end SymbolResolver
