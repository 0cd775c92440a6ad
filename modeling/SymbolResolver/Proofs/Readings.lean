import SymbolResolver.Proofs.Materialization

/-!
# Readings in a history

Whatever is done with a shelf, the merged list of each collection is made from the sources of that
collection (`Shelf.Kept`). So a merged list that is there holds the distinct members of the sources
(`Collection.Merges.merged_lists`), and a reading that finds it can be compared with one that asks
the sources. What the sources come to is given beside the store (`Collection.ComesTo`): a source
that has settled has settled so, and a source that has not may still come to it. A reading that has
had its turn waits only for a source without an outcome (`Shelf.resume_waits`).
-/

namespace SymbolResolver

namespace Lazy

variable {ε ν α β : Type}

/-- The scope of a reading: it waits for some cells, looks at others, and does nothing else. -/
def attending (awaited looked : Nat → Prop) : Scope ε where
  noted _ := False
  passed _ := False
  started _ := False
  awaited := awaited
  looked := looked
  broken := False

theorem attending_le_noteless (awaited looked : Nat → Prop) :
    (attending awaited looked : Scope ε).Le noteless :=
  ⟨fun _ => id, fun _ _ => trivial, fun _ _ => trivial, fun _ _ => trivial, fun _ _ => trivial,
    fun _ => trivial⟩

theorem Store.run_runs (store : Store ε ν) (work : Computation ε ν β) :
    ∃ trace, (store.run work).2.Runs (fun _ => False) work trace (store.run work).1 := by
  obtain ⟨_, trace, _, run⟩ :=
    Store.Ledger.advance (fun cell store => Store.Ledger.pollBelow _ cell store) work store
  exact ⟨trace, run⟩

/-- A reading that has ended has come to the end of its computation. -/
theorem Reading.Follows.of_mapOk {store : Store ε ν} {awaited looked : Nat → Prop}
    {work : Computation ε ν (Outcome β)} (within : work.Within (attending awaited looked))
    {wrap : β → Finding α} {outcome : Outcome (Finding α)}
    (follows : (Reading.finished outcome : Reading ε ν α).Follows store (work.mapOk wrap)) :
    ∃ trace result, store.Runs (fun _ => False) work trace (.finish result) ∧
      outcome = result.map wrap := by
  obtain ⟨trace, rest, run, ended⟩ := follows
  obtain ⟨middle, course, rfl⟩ := run.of_mapOk
  cases middle with
  | finish result =>
      have wrapped : (Computation.finish result : Computation ε ν (Outcome β)).mapOk wrap =
          .finish (result.map wrap) := by
        cases result <;> rfl
      rw [wrapped] at ended
      rcases ended with same | ⟨impossible, -⟩
      · injection same with same
        exact ⟨trace, result, course, same.symm⟩
      · cases impossible
  | breakOff => exact (course.within within).1.elim
  | note | pass | start | await | peek =>
      rcases ended with impossible | ⟨impossible, -⟩ <;> cases impossible

/-! ## Sources and what they come to -/

namespace Collection

/-- Sources in the order of their priorities, the highest first. -/
def Descending (sources : List (Source α)) : Prop :=
  sources.Pairwise fun earlier later => (compare later.priority earlier.priority).isLE = true

theorem descending_arrange (sources : List (Source α)) : Descending (arrange sources) := by
  have tier : ∀ rank : Priority, Descending (sources.filter (·.priority == rank)) := by
    intro rank
    rw [Descending, List.pairwise_filter]
    refine List.pairwise_of_forall fun earlier later earlier_rank later_rank => ?_
    rw [beq_iff_eq.mp earlier_rank, beq_iff_eq.mp later_rank]
    cases rank <;> decide
  have apart : ∀ rank other : Priority, (compare other rank).isLE = true →
      ∀ earlier ∈ sources.filter (·.priority == rank),
        ∀ later ∈ sources.filter (·.priority == other),
          (compare later.priority earlier.priority).isLE = true := by
    intro rank other below earlier earlier_mem later later_mem
    rw [beq_iff_eq.mp (List.mem_filter.mp earlier_mem).2,
      beq_iff_eq.mp (List.mem_filter.mp later_mem).2]
    exact below
  rw [Descending, arrange, List.pairwise_append, List.pairwise_append]
  refine ⟨⟨tier .high, tier .normal, apart .high .normal (by decide)⟩, tier .low, ?_⟩
  intro earlier member
  rcases List.mem_append.mp member with in_high | in_normal
  · exact apart .high .low (by decide) earlier in_high
  · exact apart .normal .low (by decide) earlier in_normal

/-- The merged list of a collection is made from its sources, and these are in the order of their
priorities. -/
structure Merges (roles : List (Role ε ν α)) (collection : Collection α) : Prop where
  role : roles[collection.merged]? = some (.merge collection.sources)
  descending : Descending collection.sources

theorem Merges.extend {roles longer : List (Role ε ν α)} {collection : Collection α}
    (merges : collection.Merges roles) (extends_roles : roles <+: longer) :
    collection.Merges longer :=
  ⟨Role.getElem?_extend extends_roles merges.role, merges.descending⟩

variable [Listed ν α]

/-- The sources of a collection come to given lists, or fail as given: no source has settled with
another outcome. -/
def ComesTo (store : Store ε ν) (listed : Nat → Outcome (List α)) (collection : Collection α) :
    Prop :=
  ∀ source ∈ collection.sources, ∀ outcome, store.outcome? source.cell = some outcome →
    outcome.map Listed.unwrap = listed source.cell

/-- The outcomes that the cells of a store have or are given. -/
def given (store : Store ε ν) (listed : Nat → Outcome (List α)) (cell : Nat) : Outcome ν :=
  (store.outcome? cell).getD ((listed cell).map Listed.wrap)

theorem given_of_known {store : Store ε ν} {cell : Nat} {outcome : Outcome ν}
    (known : store.outcome? cell = some outcome) (listed : Nat → Outcome (List α)) :
    given store listed cell = outcome := by
  rw [given, known, Option.getD_some]

/-- The cells of a collection's sources that pass a test. -/
def Sourced (which : Source α → Prop) (collection : Collection α) (cell : Nat) : Prop :=
  ∃ source ∈ collection.sources, which source ∧ source.cell = cell

theorem ComesTo.earlier {store later : Store ε ν} {listed : Nat → Outcome (List α)}
    {collection : Collection α} (comes : collection.ComesTo later listed)
    (order : store.Precedes later) : collection.ComesTo store listed :=
  fun source member outcome known => comes source member outcome (order.outcome_kept known)

section Outcomes

variable {store : Store ε ν} {firm : Nat → Prop} {listed : Nat → Outcome (List α)}
  {collection : Collection α} {which : Source α → Prop}

theorem ComesTo.given_eq (comes : collection.ComesTo store listed) {source : Source α}
    (member : source ∈ collection.sources) :
    (given store listed source.cell).map Listed.unwrap = listed source.cell := by
  cases known : store.outcome? source.cell with
  | some outcome =>
      rw [given_of_known known]
      exact comes source member outcome known
  | none =>
      rw [given, known, Option.getD_none]
      cases listed source.cell with
      | ok items => exact congrArg Except.ok (Listed.unwrap_wrap items)
      | error error => rfl

theorem ComesTo.map_given {sources : List (Source α)} (comes : collection.ComesTo store listed)
    (among : ∀ source ∈ sources, source ∈ collection.sources) :
    (sources.map fun source => (given store listed source.cell).map Listed.unwrap) =
      sources.map fun source => listed source.cell :=
  List.map_congr_left fun source member => comes.given_eq (among source member)

/-- What has waited for sources alone has come to what it means. -/
theorem ComesTo.result_eq {work : Computation ε ν β} {result ended : β} {trace : List ε}
    (within : work.Within (attending (Sourced which collection) fun _ => False))
    (means : work.Means (given store listed) (.finished result))
    (run : store.Runs firm work trace (.finish ended)) : ended = result := by
  have ended_means := run.means within
    (fun _ _ _ known => (given_of_known known listed).symm) (fun _ _ => False.elim) means
  injection ended_means with same
  exact same.symm

theorem scanFirst_attends (test : α → Bool) :
    (scanFirst test collection.sources : Computation ε ν (Outcome (Option α))).Within
      (attending (Sourced (fun _ => True) collection) fun _ => False) :=
  scanFirst_within test fun source member => ⟨source, member, trivial, rfl⟩

theorem scanFor_attends [BEq α] (value : α) :
    (scanFor value collection.sources : Computation ε ν (Outcome Bool)).Within
      (attending (Sourced (fun source => source.admits value = true) collection)
        fun _ => False) :=
  scanFor_within fun source member admitted => ⟨source, member, admitted, rfl⟩

/-- A search that has asked the sources has found the first match among their lists. -/
theorem ComesTo.scanned_first (comes : collection.ComesTo store listed) {test : α → Bool}
    {trace : List ε} {outcome : Outcome (Option α)}
    (run : store.Runs firm (scanFirst test collection.sources) trace (.finish outcome)) :
    outcome = firstIn test (collection.sources.map fun source => listed source.cell) := by
  rw [ComesTo.result_eq (scanFirst_attends test) (scanFirst_means test collection.sources) run,
    comes.map_given fun _ => id]

/-- A membership test that has asked the sources has found the first of those that admit the value
which holds it or fails. -/
theorem ComesTo.scanned_for [BEq α] (comes : collection.ComesTo store listed) {value : α}
    {trace : List ε} {outcome : Outcome Bool}
    (run : store.Runs firm (scanFor value collection.sources) trace (.finish outcome)) :
    outcome = (firstIn (value == ·) ((collection.sources.filter (·.admits value)).map
      fun source => listed source.cell)).map Option.isSome := by
  rw [ComesTo.result_eq (scanFor_attends value) (scanFor_means value collection.sources) run,
    comes.map_given fun _ member => (List.mem_filter.mp member).1]

/-- A reading that looks at the merged list first has found it, or has asked the sources. -/
theorem runs_readMerged {ofMerged : List α → β} {ofSources : Computation ε ν (Outcome β)}
    {trace : List ε} {outcome : Outcome β}
    (run : store.Runs firm (readMerged collection ofMerged ofSources) trace (.finish outcome)) :
    (∃ stored, store.outcome? collection.merged = some (.ok stored) ∧
        outcome = .ok (ofMerged (Listed.unwrap stored))) ∨
      store.Runs firm ofSources trace (.finish outcome) := by
  rw [readMerged] at run
  cases run with
  | @peek _ _ seen _ _ looked run =>
      rcases seen with _ | (error | stored)
      · exact .inr run
      · exact .inr run
      · cases run
        refine .inl ⟨stored, ?_, rfl⟩
        rcases looked with shown | ⟨-, impossible⟩
        · exact shown.symm
        · cases impossible

theorem run_of_merged {ofMerged : List α → β} {ofSources : Computation ε ν (Outcome β)} {stored : ν}
    (known : store.outcome? collection.merged = some (.ok stored)) :
    store.run (readMerged collection ofMerged ofSources) =
      (.finish (.ok (ofMerged (Listed.unwrap stored))), store) := by
  simp only [Store.run, readMerged, Store.advance, known]

/-- A reading asks the sources as long as the merged list is not there, also if merging has
failed. -/
theorem run_of_unmerged {ofMerged : List α → β} {ofSources : Computation ε ν (Outcome β)}
    (unmerged : ∀ stored, store.outcome? collection.merged ≠ some (.ok stored)) :
    store.run (readMerged collection ofMerged ofSources) = store.run ofSources := by
  rcases seen : store.outcome? collection.merged with _ | (error | stored)
  · simp only [Store.run, readMerged, Store.advance, seen]
  · simp only [Store.run, readMerged, Store.advance, seen]
  · exact absurd seen (unmerged stored)

theorem readMerged_attends {awaited : Nat → Prop} {ofMerged : List α → β}
    {ofSources : Computation ε ν (Outcome β)}
    (sources_within : ofSources.Within (attending awaited fun _ => False)) :
    (readMerged collection ofMerged ofSources).Within
      (attending awaited (· = collection.merged)) := by
  have le : (attending awaited fun _ => False : Scope ε).Le
      (attending awaited (· = collection.merged)) :=
    ⟨fun _ => id, fun _ => id, fun _ => id, fun _ => id, fun _ => False.elim, id⟩
  exact readMerged_within rfl (sources_within.mono le)

variable [BEq α] {roles : List (Role ε ν α)} {traces : Nat → List ε}

/-- The outcome of a merged list is that of merging what the sources come to. -/
theorem Merges.merged_outcome (merges : collection.Merges roles)
    (booked : store.Booked (roles.map Role.state) traces) (listed : Nat → Outcome (List α))
    {outcome : Outcome ν} (known : store.outcome? collection.merged = some outcome) :
    outcome = (members (given store listed) collection.sources).map
      fun items => Listed.wrap (distinct items) := by
  have origin : (roles.map Role.state)[collection.merged]? =
      some (.pending (mergeWork collection.sources)) := by
    rw [List.getElem?_map, merges.role]
    rfl
  obtain ⟨state, at_merged, advances⟩ := booked.advances collection.merged _ origin
  obtain rfl : CellState.settled outcome = state :=
    Option.some.inj ((Store.outcome?_eq_some_iff.mp known).symm.trans at_merged)
  have within : (mergeWork collection.sources : Computation ε ν (Outcome ν)).Within
      (Unites.asking collection) :=
    mergeWork_within (fun _ _ => trivial) fun source member => ⟨source, member, rfl⟩
  have merged_means : (mergeWork collection.sources : Computation ε ν (Outcome ν)).Means
      (given store listed) _ := mergeWork_means collection.sources
  exact CellState.Advances.means advances within
    (fun _ _ _ cell_known => (given_of_known cell_known listed).symm)
    (fun _ _ impossible => impossible.elim) merged_means rfl

/-- A merged list that is there holds the distinct members of the sources, which have all
succeeded. -/
theorem Merges.merged_lists (merges : collection.Merges roles)
    (booked : store.Booked (roles.map Role.state) traces)
    (comes : collection.ComesTo store listed) {stored : ν}
    (known : store.outcome? collection.merged = some (.ok stored)) :
    ∃ lists : List (List α),
      (collection.sources.map fun source => listed source.cell) = lists.map .ok ∧
        Listed.unwrap stored = distinct lists.flatten := by
  have merged := merges.merged_outcome booked listed known
  cases succeed : members (given store listed) collection.sources with
  | error error =>
      rw [succeed] at merged
      cases merged
  | ok items =>
      rw [succeed] at merged
      injection merged with merged
      obtain ⟨lists, shown_lists, rfl⟩ := exists_lists_of_members succeed
      refine ⟨lists, (comes.map_given fun _ => id).symm.trans shown_lists, ?_⟩
      rw [merged, Listed.unwrap_wrap]

/-- A reading of all members has waited for the merged list, and if the sources succeed, this holds
their distinct members. -/
theorem Merges.materialized (merges : collection.Merges roles)
    (booked : store.Booked (roles.map Role.state) traces)
    (comes : collection.ComesTo store listed) {lists : List (List α)}
    (succeed : (collection.sources.map fun source => listed source.cell) = lists.map .ok)
    {outcome : Outcome (Finding α)}
    (follows : (Reading.finished outcome : Reading ε ν α).Follows store
      (Query.materialize.work collection)) :
    store.outcome? collection.merged = some (.ok (Listed.wrap (distinct lists.flatten))) ∧
      outcome = .ok (.members (distinct lists.flatten)) := by
  obtain ⟨merged, known, rfl⟩ := materialize_finished follows
  have merged_eq := merges.merged_outcome booked listed known
  rw [members_of_lists ((comes.map_given fun _ => id).trans succeed)] at merged_eq
  subst merged_eq
  exact ⟨known, by simp [Except.map]⟩

end Outcomes

end Collection

/-! ## Histories of a shelf -/

namespace Shelf

variable [Listed ν α] [BEq α]

/-- Every cell of a shelf has come by one run from the state its role says, what is left of the
readings leaves no notes, and every merged list is made from the sources of its collection. -/
structure Kept (roles : List (Role ε ν α)) (shelf : Shelf ε ν α) : Prop where
  quiet : shelf.Quiet
  booked : ∃ traces, shelf.store.Booked (roles.map Role.state) traces
  merges : ∀ entry ∈ shelf.handles, entry.2.Merges roles

omit [BEq α] [Listed ν α] in
theorem mem_handles_of_named {shelf : Shelf ε ν α} {handle : String} {collection : Collection α}
    (named : shelf.collection? handle = some collection) :
    (handle, collection) ∈ shelf.handles := by
  obtain ⟨_, _, handles_eq, _⟩ := List.lookup_eq_some_iff.mp named
  rw [handles_eq]
  exact List.mem_append_right _ List.mem_cons_self

omit [BEq α] [Listed ν α] in
/-- Giving a collection a name gives no other collection a new merged list. -/
theorem merges_assign {shelf : Shelf ε ν α} {roles : List (Role ε ν α)}
    (merges : ∀ entry ∈ shelf.handles, entry.2.Merges roles) (handle : String)
    {made : Collection α × Store ε ν} (made_merges : made.1.Merges roles) :
    ∀ entry ∈ (shelf.assign handle made).handles, entry.2.Merges roles := by
  intro entry member
  rcases List.mem_cons.mp member with rfl | kept
  · exact made_merges
  · exact merges entry (List.mem_filter.mp kept).1

/-- A new collection takes the next cell for its merged list. -/
theorem build_merges {roles : List (Role ε ν α)} {store : Store ε ν}
    (sized : store.size = roles.length) (sources : List (Source α)) :
    (Collection.build store sources).1.Merges
      (roles ++ [.merge (Collection.arrange sources)]) := by
  have merged_eq : (Collection.build store sources).1.merged = roles.length := sized
  refine ⟨?_, Collection.descending_arrange sources⟩
  rw [merged_eq]
  exact List.getElem?_concat_length

theorem handles_of_reads (scheduling : Scheduling) (shelf : Shelf ε ν α) {move : ShelfMove ε ν α}
    (reads : move.builds = false) : (shelf.perform scheduling move).handles = shelf.handles := by
  cases move with
  | feed | build | filterMap | chain | clone | drop => cases reads
  | read handle query =>
      simp only [handles_perform, act]
      split <;> rfl
  | turn turn =>
      cases turn with
      | openGate | drop | task | settle => rfl
      | resume number =>
          simp only [handles_perform, act, Shelf.turn, resume]
          split <;> rfl

/-- Every move leaves every merged list with the sources of its collection. -/
theorem merges_perform (scheduling : Scheduling) {shelf : Shelf ε ν α} {roles : List (Role ε ν α)}
    (sized : shelf.store.size = roles.length)
    (merges : ∀ entry ∈ shelf.handles, entry.2.Merges roles) (move : ShelfMove ε ν α) :
    ∀ entry ∈ (shelf.perform scheduling move).handles,
      entry.2.Merges (roles ++ shelf.made move) := by
  have extended : ∀ more, ∀ entry ∈ shelf.handles, entry.2.Merges (roles ++ more) :=
    fun more entry member => (merges entry member).extend (List.prefix_append roles more)
  cases move with
  | feed name work needed => exact extended _
  | build handle specs =>
      have appended := (shelf.registerAll_appends shelf.store specs).size_eq
      rw [sized, List.length_map, ← List.length_append] at appended
      rw [handles_perform, made]
      refine merges_assign (extended _) handle ?_
      rw [← List.append_assoc]
      exact build_merges appended _
  | filterMap handle origin keep =>
      simp only [handles_perform, act, made]
      cases found : shelf.collection? origin with
      | none => exact extended _
      | some collection =>
          have appended := (viewSources_appends keep shelf.store collection.sources).size_eq
          rw [sized, List.length_map, ← List.length_append] at appended
          refine merges_assign (extended _) handle ?_
          rw [← List.append_assoc]
          exact build_merges appended _
  | chain handle left right =>
      simp only [handles_perform, act, made]
      cases shelf.collection? left with
      | none => exact extended _
      | some first =>
          cases shelf.collection? right with
          | none => exact extended _
          | some second => exact merges_assign (extended _) handle (build_merges sized _)
  | clone handle origin =>
      simp only [handles_perform, act, made]
      cases found : shelf.collection? origin with
      | none => exact extended _
      | some collection =>
          exact merges_assign (extended _) handle (extended _ _ (mem_handles_of_named found))
  | drop handle => exact fun entry member => extended _ entry (List.mem_filter.mp member).1
  | read handle query =>
      rw [handles_of_reads scheduling shelf rfl]
      exact extended _
  | turn turn =>
      rw [handles_of_reads scheduling shelf rfl]
      exact extended _

namespace Kept

variable {roles : List (Role ε ν α)} {shelf : Shelf ε ν α}

theorem empty : (Shelf.empty : Shelf ε ν α).Kept [] := by
  refine ⟨?_, ⟨fun _ => [], .empty⟩, ?_⟩
  · intro collection rest member
    cases member
  · intro entry member
    cases member

theorem perform (scheduling : Scheduling) (kept : shelf.Kept roles) (move : ShelfMove ε ν α) :
    (shelf.perform scheduling move).Kept (roles ++ shelf.made move) := by
  obtain ⟨traces, booked⟩ := kept.booked
  have sized : shelf.store.size = roles.length := by
    rw [booked.size_eq, List.length_map]
  obtain ⟨quiet, later_booked⟩ := books_perform scheduling kept.quiet kept.booked move
  rw [← List.map_append] at later_booked
  exact ⟨quiet, later_booked, merges_perform scheduling sized kept.merges move⟩

theorem performAll (scheduling : Scheduling) (kept : shelf.Kept roles)
    (moves : List (ShelfMove ε ν α)) :
    (shelf.performAll scheduling moves).Kept (roles ++ shelf.roles scheduling moves) := by
  induction moves generalizing shelf roles with
  | nil =>
      rw [Shelf.roles, List.append_nil]
      exact kept
  | cons move moves ih =>
      rw [Shelf.roles, ← List.append_assoc]
      exact ih (kept.perform scheduling move)

/-- A computation that leaves no notes can run beside the readings of a shelf. -/
theorem run (kept : shelf.Kept roles) {work : Computation ε ν β} (silent : work.Within noteless) :
    Kept roles { shelf with store := (shelf.store.run work).2 } := by
  obtain ⟨traces, booked⟩ := kept.booked
  obtain ⟨more, ledger⟩ := Store.Ledger.run shelf.store silent
  exact ⟨kept.quiet, ⟨_, booked.step ledger⟩, kept.merges⟩

theorem merges_of_named (kept : shelf.Kept roles) {handle : String} {collection : Collection α}
    (named : shelf.collection? handle = some collection) : collection.Merges roles :=
  kept.merges (handle, collection) (mem_handles_of_named named)

/-- Whatever is done with a shelf, the merged list of a collection stays made from its sources. -/
theorem merges_performAll (kept : shelf.Kept roles) {handle : String} {collection : Collection α}
    (named : shelf.collection? handle = some collection) (scheduling : Scheduling)
    (moves : List (ShelfMove ε ν α)) :
    ∃ longer traces, collection.Merges longer ∧
      (shelf.performAll scheduling moves).store.Booked (longer.map Role.state) traces := by
  obtain ⟨traces, booked⟩ := (kept.performAll scheduling moves).booked
  exact ⟨_, traces, (kept.merges_of_named named).extend (List.prefix_append _ _), booked⟩

end Kept

theorem kept_performAll (scheduling : Scheduling) (moves : List (ShelfMove ε ν α)) :
    ((empty : Shelf ε ν α).performAll scheduling moves).Kept
      ((empty : Shelf ε ν α).roles scheduling moves) :=
  Kept.empty.performAll scheduling moves

theorem precedes_performAll (scheduling : Scheduling) (shelf : Shelf ε ν α)
    (moves : List (ShelfMove ε ν α)) :
    shelf.store.Precedes (shelf.performAll scheduling moves).store := by
  induction moves generalizing shelf with
  | nil => exact .refl _
  | cons move moves ih => exact (shelf.precedes_perform scheduling move).trans (ih _)

/-! ## Beginning and taking up a reading -/

theorem perform_read {shelf : Shelf ε ν α} {reader : String} {collection : Collection α}
    (named : shelf.collection? reader = some collection) (scheduling : Scheduling)
    (query : Query α) :
    (shelf.perform scheduling (.read reader query)).readings[shelf.readings.length]? =
        some (shelf.follow collection (query.work collection)).1 ∧
      (shelf.perform scheduling (.read reader query)).store =
        (shelf.follow collection (query.work collection)).2 := by
  simp only [store_perform, readings_perform, act, named]
  exact ⟨List.getElem?_concat_length, trivial⟩

/-- A reading is on the course of its query, whatever has happened since it began. -/
theorem read_follows {shelf : Shelf ε ν α} {reader : String} {collection : Collection α}
    (named : shelf.collection? reader = some collection) (scheduling : Scheduling)
    (query : Query α) (later : List (ShelfMove ε ν α)) :
    ∃ reading, ((shelf.perform scheduling (.read reader query)).performAll scheduling
        later).readings[shelf.readings.length]? = some reading ∧
      reading.Follows ((shelf.perform scheduling (.read reader query)).performAll scheduling
        later).store (query.work collection) := by
  obtain ⟨began, store_eq⟩ := perform_read named scheduling query
  refine follows_performAll scheduling began ?_ later
  rw [store_eq]
  exact shelf.follow_follows collection (.stay _)

/-- Wherever all members are read in a history, the reading finds the distinct members of sources
that succeed. -/
theorem materialized_in_history {scheduling : Scheduling} {past future : List (ShelfMove ε ν α)}
    {shelf : Shelf ε ν α} {reader : String} {collection : Collection α}
    {listed : Nat → Outcome (List α)} {lists : List (List α)} {outcome : Outcome (Finding α)}
    (arrived : shelf = (empty : Shelf ε ν α).performAll scheduling
      (past ++ .read reader .materialize :: future))
    (named : ((empty : Shelf ε ν α).performAll scheduling past).collection? reader =
      some collection)
    (comes : collection.ComesTo shelf.store listed)
    (succeed : (collection.sources.map fun source => listed source.cell) = lists.map .ok)
    (ended : shelf.readings[((empty : Shelf ε ν α).performAll scheduling past).readings.length]? =
      some (.finished outcome)) :
    shelf.store.outcome? collection.merged = some (.ok (Listed.wrap (distinct lists.flatten))) ∧
      outcome = .ok (.members (distinct lists.flatten)) := by
  rw [performAll_append] at arrived
  subst arrived
  obtain ⟨roles, traces, merges, booked⟩ := (kept_performAll scheduling past).merges_performAll
    named scheduling (.read reader .materialize :: future)
  obtain ⟨reading, found, follows⟩ := read_follows named scheduling .materialize future
  obtain rfl : .finished outcome = reading := Option.some.inj (ended.symm.trans found)
  exact merges.materialized booked comes succeed follows

omit [Listed ν α] [BEq α] in
theorem exists_outcome (shelf : Shelf ε ν α) (number : Nat)
    (ended : shelf.readings[number]?.any (· matches .finished _) = true) :
    ∃ outcome, shelf.readings[number]? = some (.finished outcome) := by
  rcases found : shelf.readings[number]? with _ | (_ | outcome | _)
  · simp [found] at ended
  · simp [found] at ended
  · exact ⟨outcome, rfl⟩
  · simp [found] at ended

end Shelf

/-! ## What a reading waits for -/

/-- A computation that waits at no gate and has gone as far as it can has ended, or waits for a cell
that has no outcome. -/
theorem Store.advance_waits {poll : Nat → Store ε ν → Store ε ν} {awaited looked : Nat → Prop}
    {work : Computation ε ν α} (within : work.Within (attending awaited looked))
    (store : Store ε ν) (waits : (advance poll work store).1.progress = .waiting) :
    ∃ cell, awaited cell ∧ (advance poll work store).2.outcome? cell = none := by
  induction work generalizing store with
  | finish result => cases waits
  | breakOff => cases waits
  | note event next _ => exact within.1.elim
  | pass gate next _ => exact within.1.elim
  | start cell next _ => exact within.1.elim
  | await cell next ih =>
      cases known : (poll cell (store.start cell)).outcome? cell with
      | some outcome =>
          have unfolded : advance poll (.await cell next) store =
              advance poll (next outcome) (poll cell (store.start cell)) := by
            simp [advance, known]
          rw [unfolded] at waits ⊢
          exact ih outcome (within.2 outcome) _ waits
      | none =>
          refine ⟨cell, within.1, ?_⟩
          simp only [advance, known]
  | peek cell next ih => exact ih _ (within.2 _) store waits

namespace Shelf

variable {shelf : Shelf ε ν α} {awaited looked : Nat → Prop}
  {work : Computation ε ν (Outcome (Finding α))}

theorem follow_waits (within : work.Within (attending awaited looked))
    (collection : Collection α) {waiting : Collection α}
    {rest : Computation ε ν (Outcome (Finding α))}
    (waits : (shelf.follow collection work).1 = .waiting waiting rest) :
    ∃ cell, awaited cell ∧ (shelf.follow collection work).2.outcome? cell = none := by
  refine Store.advance_waits within shelf.store ?_
  simp only [follow, Store.run] at waits
  generalize (Store.advance (Store.pollBelow shelf.store.size) work shelf.store).1 = left at waits ⊢
  cases left with
  | finish outcome => cases waits
  | breakOff => cases waits
  | note | pass | start | await | peek => rfl

theorem resume_waits {number : Nat} {reading : Reading ε ν α}
    (within : work.Within (attending awaited looked))
    (found : shelf.readings[number]? = some reading) (follows : reading.Follows shelf.store work)
    {collection : Collection α} {rest : Computation ε ν (Outcome (Finding α))}
    (waits : (shelf.resume number).readings[number]? = some (.waiting collection rest)) :
    ∃ cell, awaited cell ∧ (shelf.resume number).store.outcome? cell = none := by
  cases reading with
  | finished outcome =>
      simp only [resume, found] at waits
      cases waits
  | dropped =>
      simp only [resume, found] at waits
      cases waits
  | waiting reader left =>
      obtain ⟨trace, run⟩ := follows
      obtain ⟨resumed, store_eq⟩ := resume_of_waiting found
      rw [store_eq]
      exact follow_waits (run.within within).1 reader (Option.some.inj (resumed.symm.trans waits))

variable [Listed ν α] [BEq α]

theorem read_waits {reader : String} {collection : Collection α}
    (named : shelf.collection? reader = some collection) (scheduling : Scheduling)
    {query : Query α}
    (within : (query.work collection : Computation ε ν (Outcome (Finding α))).Within
      (attending awaited looked))
    {waiting : Collection α} {rest : Computation ε ν (Outcome (Finding α))}
    (waits : (shelf.perform scheduling (.read reader query)).readings[shelf.readings.length]? =
      some (.waiting waiting rest)) :
    ∃ cell, awaited cell ∧
      (shelf.perform scheduling (.read reader query)).store.outcome? cell = none := by
  obtain ⟨began, store_eq⟩ := perform_read named scheduling query
  rw [store_eq]
  exact follow_waits within collection (Option.some.inj (began.symm.trans waits))

end Shelf

end Lazy

end SymbolResolver
