import SymbolResolver.Proofs.FirstMatches
import SymbolResolver.Proofs.Footprints

/-!
# Pulled sources

Which sources a reading pulls. A search asks the sources in order, up to the first that holds a
match or fails (`Collection.consulted`), and a membership test asks those of them that admit the
value. These are settled when the reading has ended, and beside them only cells change that they
involve, as the source of a view involves the source it views (`Collection.reads_pull_consulted`).
Where they ask for no other cells, they are the only ones to change (`Collection.ChangesOnly`). A
reading of all members starts every source, and what is started stays so.
-/

namespace SymbolResolver

namespace Lazy

variable {ε ν α β : Type}

namespace Computation

theorem mapOk_id (work : Computation ε ν (Outcome α)) : work.mapOk id = work := by
  refine Eq.trans (congrArg work.bind (funext fun outcome => ?_)) work.bind_finish
  cases outcome <;> rfl

end Computation

namespace Collection

/-! ## The sources that a search asks -/

section Searching

variable [Listed ν α]

/-- The sources up to the first one that holds a match, has failed, or has no outcome. -/
def consulted (store : Store ε ν) (test : α → Bool) : List (Source α) → List (Source α)
  | [] => []
  | source :: sources =>
    match store.outcome? source.cell with
    | some (.ok stored) =>
      if (Listed.unwrap stored).any test then [source] else source :: consulted store test sources
    | _ => [source]

/-- The outcomes that the cells of a store have. -/
def shownIn (store : Store ε ν) (cell : Nat) : Outcome ν :=
  (store.outcome? cell).getD (.error .brokenOff)

variable {store : Store ε ν} {test : α → Bool}

theorem consulted_cons (store : Store ε ν) (test : α → Bool) (source : Source α)
    (sources : List (Source α)) :
    consulted store test (source :: sources) =
      source :: match decision test ((shownIn store source.cell).map Listed.unwrap) with
        | some _ => []
        | none => consulted store test sources := by
  rw [consulted, shownIn]
  rcases store.outcome? source.cell with _ | (error | stored)
  · rfl
  · rfl
  · simp only [Option.getD_some, Except.map, decision, ← List.isSome_find?]
    cases (Listed.unwrap stored).find? test <;> rfl

theorem scanFirst_cons (test : α → Bool) (source : Source α) (sources : List (Source α)) :
    (scanFirst test (source :: sources) : Computation ε ν (Outcome (Option α))) =
      .await source.cell fun stored =>
        match decision test (stored.map Listed.unwrap) with
        | some decided => .finish decided
        | none => scanFirst test sources := by
  refine congrArg (Computation.await source.cell) (funext fun outcome => ?_)
  cases outcome with
  | error error => rfl
  | ok stored =>
      simp only [Computation.bind, Except.map, decision]
      cases (Listed.unwrap stored).find? test <;> rfl

/-- A search asks no source after the first that holds a match or fails. -/
theorem scanFirst_decided {sure : Nat → Prop} {opened : String → Prop} {sources : List (Source α)}
    (are_sure : ∀ source ∈ consulted store test sources, sure source.cell) :
    (scanFirst test sources : Computation ε ν (Outcome (Option α))).Decided sure opened
      (shownIn store) := by
  induction sources with
  | nil => trivial
  | cons source sources ih =>
      rw [consulted_cons, List.forall_mem_cons] at are_sure
      rw [scanFirst_cons]
      refine ⟨are_sure.1, ?_⟩
      cases decided : decision test ((shownIn store source.cell).map Listed.unwrap) with
      | some answer => simp only [decided, Computation.Decided]
      | none =>
          simp only [decided] at are_sure ⊢
          exact ih are_sure.2

/-- When a search has ended, the sources that it has asked are settled. -/
theorem settled_of_scanned {firm : Nat → Prop} {sources : List (Source α)} {trace : List ε}
    {outcome : Outcome (Option α)}
    (run : store.Runs firm (scanFirst test sources) trace (.finish outcome)) :
    ∀ source ∈ consulted store test sources, store.isSettled source.cell = true := by
  induction sources generalizing trace with
  | nil => exact List.forall_mem_nil _
  | cons source sources ih =>
      rw [scanFirst_cons] at run
      cases run with
      | @await _ _ stored _ _ known run =>
          have shown_eq : shownIn store source.cell = stored := by
            rw [shownIn, known, Option.getD_some]
          rw [consulted_cons, shown_eq, List.forall_mem_cons]
          refine ⟨Store.isSettled_iff.mpr ⟨stored, known⟩, ?_⟩
          cases decided : decision test (stored.map Listed.unwrap) with
          | some answer => exact List.forall_mem_nil _
          | none =>
              simp only [decided] at run
              exact ih run

/-- A reading in turns pulls some sources: in the end they are settled, and in each turn only cells
have changed that they involve. -/
structure Pulls (turns : List (Store ε ν × Store ε ν)) (final : Store ε ν)
    (sources : List (Source α)) : Prop where
  settled : ∀ source ∈ sources, final.isSettled source.cell = true
  state_kept : ∀ turn ∈ turns, ∀ cell,
    ¬turn.1.Involves turn.2 (· ∈ sources.map Source.cell) cell →
      turn.2.state? cell = turn.1.state? cell

/-- In every turn of a reading in which sources ask for no other cells, they are the only ones to
change. -/
def ChangesOnly (turns : List (Store ε ν × Store ε ν)) (sources : List (Source α)) : Prop :=
  ∀ turn ∈ turns,
    (∀ source ∈ sources, ∀ state other, turn.1.state? source.cell = some state →
      ¬state.Asks turn.2 other) →
    ∀ cell ∉ sources.map Source.cell, turn.2.state? cell = turn.1.state? cell

omit [Listed ν α] in
theorem Pulls.changesOnly {turns : List (Store ε ν × Store ε ν)} {final : Store ε ν}
    {sources : List (Source α)} (pulls : Pulls turns final sources) :
    ChangesOnly turns sources := by
  intro turn member unasking cell beside
  refine pulls.state_kept turn member cell fun involved => beside (involved.of_unasking ?_)
  intro cell state other is_root found
  obtain ⟨source, source_member, rfl⟩ := List.mem_map.mp is_root
  exact unasking source source_member state other found

/-- A reading that ends as a search does pulls the sources that the search asks. -/
theorem pulls_of_proceeds {final : Store ε ν} {sources : List (Source α)}
    {turns : List (Store ε ν × Store ε ν)} {wrap : Option α → β}
    {rest : Computation ε ν (Outcome β)} {outcome : Outcome β}
    (proceeds : store.Proceeds ((scanFirst test sources).mapOk wrap) turns rest final)
    (ended : rest.progress = .finished outcome) :
    Pulls turns final (consulted final test sources) where
  settled := by
    obtain ⟨trace, run⟩ := proceeds.runs
    obtain ⟨middle, course, rfl⟩ := run.of_mapOk
    cases middle with
    | finish result => exact settled_of_scanned course
    | breakOff | note | pass | start | await | peek => cases ended
  state_kept := by
    have decided : (scanFirst test sources : Computation ε ν (Outcome (Option α))).Decided
        (· ∈ (consulted final test sources).map Source.cell) (fun _ => True) (shownIn final) :=
      scanFirst_decided fun source member => List.mem_map_of_mem member
    refine proceeds.state_kept (.refl final)
      (Computation.within_mapOk (scanFirst_within test fun _ _ => trivial) wrap)
      (decided.mapOk (scanFirst_means test sources) wrap) ?_
    intro cell found _ known
    rw [shownIn, known, Option.getD_some]

end Searching

/-! ## Merging starts every source -/

section Merging

variable [Listed ν α] [BEq α] {store later : Store ε ν} {collection : Collection α}

omit [Listed ν α] [BEq α] in
theorem isStarted_startAll {poll : Nat → Store ε ν → Store ε ν}
    (poll_precedes : ∀ store cell, Store.Precedes store (poll cell store))
    {sources : List (Source α)} (next : Computation ε ν β)
    (inside : ∀ source ∈ sources, source.cell < store.size) :
    ∀ source ∈ sources,
      (Store.advance poll (startAll sources next) store).2.isStarted source.cell = true := by
  induction sources generalizing store with
  | nil => exact List.forall_mem_nil _
  | cons source sources ih =>
      rw [List.forall_mem_cons] at inside ⊢
      have started : (store.start source.cell).isStarted source.cell = true := by
        obtain ⟨state, found⟩ := Store.exists_state?_of_lt inside.1
        refine Store.isStarted_iff.mpr ⟨state.started, ?_, ?_⟩
        · rw [Store.state?_start, if_pos rfl, found, Option.map_some]
        · cases state <;> rfl
      have order := Store.precedes_advance poll_precedes (startAll sources next)
        (store.start source.cell)
      refine ⟨order.start_kept started, ih ?_⟩
      rw [Store.size_start]
      exact inside.2

/-- The cells of a collection are there, and its sources have been started unless the merged list is
still to be run from the beginning. -/
structure Primed (collection : Collection α) (store : Store ε ν) : Prop where
  merged_inside : collection.merged < store.size
  inside : ∀ source ∈ collection.sources, source.cell < store.size
  begun : store.state? collection.merged = some (.pending (mergeWork collection.sources)) ∨
    store.state? collection.merged = some (.running (mergeWork collection.sources)) ∨
    ∀ source ∈ collection.sources, store.isStarted source.cell = true

namespace Primed

theorem of_same (primed : collection.Primed store) (order : store.Precedes later)
    (same : later.state? collection.merged = store.state? collection.merged) :
    collection.Primed later where
  merged_inside := Nat.lt_of_lt_of_le primed.merged_inside order.size_le
  inside source member := Nat.lt_of_lt_of_le (primed.inside source member) order.size_le
  begun := by
    rw [same]
    exact primed.begun.imp_right (Or.imp_right fun started source member =>
      order.start_kept (started source member))

theorem start (primed : collection.Primed store) (cell : Nat) :
    collection.Primed (store.start cell) := by
  by_cases same : cell = collection.merged
  · refine ⟨by simpa using primed.merged_inside, by simpa using primed.inside, .inr ?_⟩
    subst same
    rw [Store.state?_start, if_pos rfl]
    rcases primed.begun with pending | running | started
    · exact .inl (by rw [pending]; rfl)
    · exact .inl (by rw [running]; rfl)
    · exact .inr fun source member =>
        (Store.precedes_start store _).start_kept (started source member)
  · exact primed.of_same (Store.precedes_start store cell)
      (by rw [Store.state?_start, if_neg same])

/-- When the merged list has been run from the beginning, every source has been started. -/
theorem started_of_running (primed : collection.Primed store)
    (running : store.state? collection.merged =
      some (.running (mergeWork collection.sources))) :
    ∀ source ∈ collection.sources,
      (Store.pollBelow (collection.merged + 1) collection.merged store).isStarted source.cell =
        true := by
  rw [Store.pollBelow_of_running running]
  intro source member
  refine (Store.precedes_ofRest (Store.running_advance running _) _).start_kept ?_
  exact isStarted_startAll (fun store cell => Store.precedes_pollBelow _ cell store) _
    primed.inside source member

theorem pollBelow (primed : collection.Primed store) (bound cell : Nat) :
    collection.Primed (Store.pollBelow bound cell store) := by
  refine Store.pollBelow_preserves bound collection.Primed ?_ bound (Nat.le_refl bound) cell store
    primed
  intro lower work store _ lower_kept running primed
  have polled : Store.pollBelow (lower + 1) lower store = _ := Store.pollBelow_of_running running
  by_cases same : lower = collection.merged
  · subst same
    rw [← polled]
    have order := Store.precedes_pollBelow (collection.merged + 1) collection.merged store
    refine ⟨Nat.lt_of_lt_of_le primed.merged_inside order.size_le, fun source member =>
      Nat.lt_of_lt_of_le (primed.inside source member) order.size_le, .inr (.inr ?_)⟩
    rcases primed.begun with pending | fresh | started
    · simp [pending] at running
    · exact primed.started_of_running fresh
    · exact fun source member => order.start_kept (started source member)
  · have advanced : collection.Primed (Store.advance (Store.pollBelow lower) work store).2 :=
      Store.advance_preserves collection.Primed
        (fun store event _ primed => primed.of_same (Store.precedes_record store event) rfl)
        (fun store cell _ primed => primed.start cell)
        (fun store cell _ primed => lower_kept cell _ (primed.start cell)) work work.within_all
        store primed
    exact advanced.of_same (Store.precedes_ofRest (Store.running_advance running work) _)
      (by rw [Store.state?_modify, if_neg same])

theorem step (primed : collection.Primed store) (step : store.Step later) :
    collection.Primed later := by
  cases step with
  | allocate state needed =>
      refine primed.of_same (store.precedes_allocate state needed) ?_
      rw [Store.state?_allocate, if_neg (Nat.ne_of_lt primed.merged_inside)]
  | run work =>
      exact Store.advance_preserves collection.Primed
        (fun store event _ primed => primed.of_same (Store.precedes_record store event) rfl)
        (fun store cell _ primed => primed.start cell)
        (fun store cell _ primed => (primed.start cell).pollBelow _ cell) work work.within_all
        store primed
  | poll cell => exact primed.pollBelow _ cell
  | openGate gate => exact primed.of_same (store.precedes_openGate gate) rfl

end Primed

theorem Built.primed (built : collection.Built store) : collection.Primed store := by
  obtain ⟨earlier, registered, inside, rfl, since⟩ := built
  refine since.preserves (fun step primed => Primed.step primed step) ⟨?_, ?_, .inl ?_⟩
  · exact (Store.size_allocate earlier _ _).symm ▸ Nat.lt_succ_self earlier.size
  · exact fun source member => Nat.lt_of_lt_of_le (inside source (mem_arrange.mp member))
      (earlier.precedes_allocate _ _).size_le
  · exact (Store.state?_allocate earlier _ _ _).trans (if_pos rfl)

/-- A reading of all members starts every source in its first turn, whatever the sources come to. -/
theorem Built.started_materialize (built : collection.Built store) :
    ∀ source ∈ collection.sources,
      (store.run (collection.materialize : Computation ε ν (Outcome (List α)))).2.isStarted
        source.cell = true := by
  have primed := built.primed
  have ran : (store.run (collection.materialize : Computation ε ν (Outcome (List α)))).2 =
      Store.pollBelow (collection.merged + 1) collection.merged
        (store.start collection.merged) := by
    rw [← Store.pollBelow_of_lt primed.merged_inside, ← Store.run_outcomeOf_store]
    exact congrArg Prod.snd (Store.advance_mapOk _ _ _ store)
  rw [ran]
  have from_beginning : ∀ state, store.state? collection.merged = some state →
      state.started = .running (mergeWork collection.sources) →
      ∀ source ∈ collection.sources, (Store.pollBelow (collection.merged + 1) collection.merged
        (store.start collection.merged)).isStarted source.cell = true := by
    intro state found started
    refine (primed.start _).started_of_running ?_
    rw [Store.state?_start, if_pos rfl, found, Option.map_some, started]
  rcases primed.begun with pending | running | started
  · exact from_beginning _ pending rfl
  · exact from_beginning _ running rfl
  · intro source member
    have order := (store.precedes_start collection.merged).trans
      (Store.precedes_pollBelow (collection.merged + 1) collection.merged _)
    exact order.start_kept (started source member)

theorem Built.descending (built : collection.Built store) : Descending collection.sources := by
  obtain ⟨_, registered, _, rfl, _⟩ := built
  exact descending_arrange registered

end Merging

theorem sourcesStarted_mono {store later : Store ε ν} (order : store.Precedes later)
    (collection : Collection α) :
    collection.sourcesStarted store ≤ collection.sourcesStarted later :=
  List.countP_mono_left fun _ _ => order.start_kept

/-- Which sources readings pull, after any history and whatever happens between their turns. -/
theorem reads_pull_consulted [Listed ν α] [BEq α] {store : Store ε ν} {collection : Collection α}
    (built : collection.Built store) :
    Descending collection.sources ∧
    (collection.isMerged store = false →
      (∀ value turns rest final outcome,
        store.Proceeds (collection.contains value) turns rest final →
        rest.progress = .finished outcome →
        let pulled := consulted final (value == ·) (collection.sources.filter (·.admits value))
        Pulls turns final pulled ∧ ChangesOnly turns pulled) ∧
      ∀ test turns rest final outcome,
        store.Proceeds (collection.first? test) turns rest final →
        rest.progress = .finished outcome →
        let pulled := consulted final test collection.sources
        Pulls turns final pulled ∧ ChangesOnly turns pulled) ∧
    (collection.isMerged store = true →
      (∀ value, ∃ answer, store.run (collection.contains value) = (.finish (.ok answer), store)) ∧
      ∀ test, ∃ answer, store.run (collection.first? test) = (.finish (.ok answer), store)) ∧
    (∀ source ∈ collection.sources,
      (store.run (collection.materialize : Computation ε ν (Outcome (List α)))).2.isStarted
        source.cell = true) ∧
    ∀ later, store.Evolves later →
      collection.sourcesStarted store ≤ collection.sourcesStarted later := by
  refine ⟨built.descending, fun unmerged => ?_, fun merged => ?_, built.started_materialize,
    fun later evolves => sourcesStarted_mono evolves.order collection⟩
  · have not_merged : ∀ stored, store.outcome? collection.merged ≠ some (.ok stored) := by
      intro stored known
      rw [isMerged_iff.mpr ⟨stored, known⟩] at unmerged
      cases unmerged
    refine ⟨?_, ?_⟩
    · intro value turns rest final outcome proceeds
      have scanned := proceeds.of_run_eq (run_of_unmerged not_merged)
      rw [scanFor_eq] at scanned
      intro ended pulled
      have pulls := pulls_of_proceeds scanned ended
      exact ⟨pulls, pulls.changesOnly⟩
    · intro test turns rest final outcome proceeds
      have scanned := proceeds.of_run_eq (run_of_unmerged not_merged)
      rw [← Computation.mapOk_id (scanFirst test collection.sources)] at scanned
      intro ended pulled
      have pulls := pulls_of_proceeds scanned ended
      exact ⟨pulls, pulls.changesOnly⟩
  · obtain ⟨stored, known⟩ := isMerged_iff.mp merged
    exact ⟨fun value => ⟨_, run_of_merged known⟩, fun test => ⟨_, run_of_merged known⟩⟩

/-- A membership test that a closed gate has held up pulls the sources up to the one that holds the
value. The source after it is left alone. -/
theorem reads_pull_consulted_gated :
    let waiting (items : List Nat) : CellState Unit (List Nat) :=
      .pending (.pass "disk" (.finish (.ok items)))
    let base : Store Unit (List Nat) :=
      ⟨[⟨.pending (.finish (.ok [1])), []⟩, ⟨waiting [2], []⟩, ⟨waiting [2], []⟩], [], []⟩
    let built := build base
      [(⟨.low, 2, none⟩ : Source Nat), ⟨.normal, 1, none⟩, ⟨.high, 0, none⟩]
    let asked := built.2.run (built.1.contains 2)
    let opened := asked.2.openGate "disk"
    let resumed := opened.run asked.1
    let pulled := consulted resumed.2 (2 == ·) (built.1.sources.filter (·.admits 2))
    asked.1.progress = .waiting ∧ resumed.1.progress = .finished (.ok true) ∧
      Pulls [(built.2, asked.2), (opened, resumed.2)] resumed.2 pulled ∧
      ChangesOnly [(built.2, asked.2), (opened, resumed.2)] pulled ∧
      pulled.map Source.cell = [0, 1] ∧ resumed.2.isStarted 2 = false := by
  intro waiting base built asked opened resumed pulled
  have ended : resumed.1.progress = .finished (.ok true) := by decide +kernel
  have proceeds : built.2.Proceeds (built.1.contains 2)
      [(built.2, asked.2), (opened, resumed.2)] resumed.1 resumed.2 :=
    .resume .begin ((Store.Evolves.refl asked.2).step (.openGate "disk"))
  have made : built.1.Built built.2 := built_build (by decide)
  obtain ⟨-, of_unmerged, -⟩ := reads_pull_consulted made
  obtain ⟨pulls, only⟩ := (of_unmerged (by decide +kernel)).1 2 _ _ _ _ proceeds ended
  exact ⟨by decide +kernel, ended, pulls, only, by decide +kernel, by decide +kernel⟩

/-- A membership test finds a value in a view. The source behind the view is also one of the sources,
and has been started although the test has not come to it. -/
theorem view_pulls_viewed :
    let base : Store Unit (List Nat) := ⟨[⟨.pending (.finish (.ok [1])), []⟩], [], []⟩
    let origin := build base [(⟨.normal, 0, none⟩ : Source Nat)]
    let view := filterMap origin.2 origin.1 fun item : Nat => .finish (some item)
    let whole := chain view.2 view.1 origin.1
    let asked := whole.2.run (whole.1.contains 1)
    whole.1.isMerged whole.2 = false ∧ whole.1.sourcesStarted whole.2 = 0 ∧
      asked.1.progress = .finished (.ok true) ∧
      (consulted asked.2 (1 == ·) (whole.1.sources.filter (·.admits 1))).map Source.cell = [2] ∧
      (whole.1.sources.filter fun source => asked.2.isStarted source.cell).map Source.cell =
        [2, 0] := by
  decide +kernel

end Collection

end Lazy

end SymbolResolver
